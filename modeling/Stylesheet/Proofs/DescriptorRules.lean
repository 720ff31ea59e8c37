import Stylesheet.Proofs.ClosingBrace

/-!
# The rule of a block of descriptors

The rule against which descriptors are checked is kept once for the whole context, and not with the
scope of their block. It is right nevertheless. Only the name of an at-rule in a list writes it
(`Move.NamesRule`), only the brace that closes a block of descriptors clears it, and within such a
block no list is ever open. So from the name of the rule on, through the names behind it and up to
the brace that closes its block, the rule stays what it is, whatever is open in the block or left
open there (`Context.InRule.step`). By what has been read it is therefore the rule that opened the
block (`Context.RuleOf`), and descriptors are checked against it (`Mode.Reachable.ownRule`).
-/
namespace Stylesheet

open Grammar (react awaited)

variable {dialect : Dialect} {rule : Option DescriptorRule} {lexeme : Lexeme}

/-! ## What writes the rule -/

/-- Whether a move writes the rule only for its name, and does nothing else towards a block of
descriptors. -/
def Move.NamesRule (lexeme : Lexeme) : Move → Prop
  | check rule =>
    lexeme.token.kind = .atRule ∧ DescriptorRule.ofName? lexeme.text = some rule
  | await token => token ≠ .descriptorBlock
  | enter scope => scope ≠ .descriptors
  | replace scope _ => scope ≠ .descriptors
  | stay => True
  | leave => True

/-- The name of an at-rule writes its own rule. -/
theorem atRuleMove_namesRule (isAtRule : lexeme.token.kind = .atRule) :
    (Grammar.atRuleMove dialect lexeme.text).NamesRule lexeme := by
  unfold Grammar.atRuleMove
  repeat' split
  case h_1 rule named => exact ⟨isAtRule, named⟩
  all_goals simp [Move.NamesRule]

/-- In a list of rules nothing else writes one. -/
theorem inRules_namesRule : (Grammar.inRules dialect lexeme).move.NamesRule lexeme := by
  unfold Grammar.inRules
  split
  case h_3 isAtRule => exact atRuleMove_namesRule isAtRule
  case h_9 => cases dialect.allowsNesting <;> simp [Lexeme.keep, Move.NamesRule]
  all_goals simp [Lexeme.keep, Move.NamesRule]

/-- Nor in any list. -/
theorem inBody_namesRule (list : Body) :
    (Grammar.inBody dialect lexeme list).move.NamesRule lexeme := by
  cases list with
  | top => exact inRules_namesRule
  | block =>
    simp only [Grammar.inBody]
    unfold Grammar.inDeclarations
    repeat' split
    all_goals first
      | exact inRules_namesRule
      | simp [Lexeme.keep, Move.NamesRule]

/-- Nor in any scope. -/
theorem react_namesRule {scope : Scope} {answer : Answer}
    (settles : react dialect rule lexeme scope = .settle answer) :
    answer.move.NamesRule lexeme := by
  cases scope with
  | body list =>
    cases settles
    exact inBody_namesRule list
  | _ =>
    simp only [react, Grammar.inPropertyBlock, Grammar.inValue, Grammar.inParens,
      Grammar.inDocumentTypes, Grammar.inConditionParens, Grammar.inCondition, Grammar.inComponent,
      Grammar.inDescriptors, Grammar.inAtRule, Grammar.inInterpolation] at settles
    repeat' split at settles
    all_goals cases settles <;> simp [Lexeme.keep, Move.NamesRule]

/-- Nor does a token that is awaited, unless it is the block of a rule. -/
theorem awaited_namesRule {token : Awaiting} {answer : Answer} (other : token ≠ .descriptorBlock)
    (found : awaited rule lexeme token = some answer) : answer.move.NamesRule lexeme := by
  cases token with
  | descriptorBlock => contradiction
  | _ =>
    simp only [awaited] at found
    repeat' split at found
    all_goals cases found <;> simp [Lexeme.keep, Move.NamesRule]

/-! ## What is open in a block of descriptors -/

/-- The scopes that may be open in a block of descriptors. -/
def Scope.ofDescriptor : List Scope := [.value, .propertyBlock, .parens, .interpolation]

/-- The block is none of them. -/
theorem ne_descriptors_of_mem_ofDescriptor {scope : Scope} (inside : scope ∈ Scope.ofDescriptor) :
    scope ≠ .descriptors := by
  rintro rfl
  exact absurd inside (by decide)

/-- Nor is it a list. -/
theorem ne_descriptors_of_mem_bodies {scope : Scope} (list : scope ∈ Scope.bodies) :
    scope ≠ .descriptors := by
  rintro rfl
  exact absurd list (by decide)

/-- What sits on one of them, or on the block, is one of them. -/
theorem mem_ofDescriptor_of_seat {scope inner : Scope}
    (inside : scope ∈ .descriptors :: Scope.ofDescriptor)
    (seat : scope ∈ dialect.seats inner) : inner ∈ Scope.ofDescriptor := by
  cases inner with
  | value | propertyBlock | parens | interpolation => decide
  | _ =>
    simp only [Scope.ofDescriptor, List.mem_cons, List.not_mem_nil, or_false] at inside
    rcases inside with rfl | rfl | rfl | rfl | rfl <;> simp [Dialect.seats, Scope.bodies] at seat

/-- In the block and in all of them only the colon of a value is awaited. -/
theorem eq_colon_of_seat {scope : Scope} {token : Awaiting}
    (inside : scope ∈ .descriptors :: Scope.ofDescriptor) (seat : scope ∈ token.seats) :
    token = .colon := by
  cases token with
  | colon => rfl
  | _ =>
    simp only [Scope.ofDescriptor, List.mem_cons, List.not_mem_nil, or_false] at inside
    rcases inside with rfl | rfl | rfl | rfl | rfl <;> simp [Awaiting.seats, Scope.bodies] at seat

/-- In them no rule is written, and no scope is replaced. -/
theorem react_inside {scope : Scope} {answer : Answer}
    (inside : scope ∈ .descriptors :: Scope.ofDescriptor)
    (settles : react dialect rule lexeme scope = .settle answer) :
    (∀ rule, answer.move ≠ .check rule) ∧
      ∀ scope placing, answer.move ≠ .replace scope placing := by
  simp only [Scope.ofDescriptor, List.mem_cons, List.not_mem_nil, or_false] at inside
  rcases inside with rfl | rfl | rfl | rfl | rfl
  all_goals
    simp only [react, Grammar.inPropertyBlock, Grammar.inValue, Grammar.inParens,
      Grammar.inDescriptors, Grammar.inInterpolation] at settles
    repeat' split at settles
  all_goals cases settles <;> simp [Lexeme.keep]

/-- The block itself leaves no lexeme to others, and it is left at a closing brace only. -/
theorem react_descriptors (dialect : Dialect) (rule : Option DescriptorRule) (lexeme : Lexeme) :
    ∃ answer, react dialect rule lexeme .descriptors = .settle answer ∧
      (answer.move = .leave → lexeme.token.kind = .braceClose) ∧
      (lexeme.token.kind = .word → answer.style =
        (if dialect.admits rule lexeme.word then Category.property else .error : Style)) := by
  simp only [react, Grammar.inDescriptors]
  split
  · next close => exact ⟨_, rfl, fun _ => close, by simp [close]⟩
  · exact ⟨_, rfl, by simp, fun _ => rfl⟩
  · next other => exact ⟨_, rfl, by simp [Lexeme.keep], fun word => absurd word other⟩

namespace Nesting

/-- A scope above a block of descriptors, or the block, is innermost. -/
theorem scope_innermost_mem {above below : List Frame} {block : Frame} {root : Root}
    (isBlock : block.scope = .descriptors)
    (inside : ∀ frame ∈ above, frame.scope ∈ Scope.ofDescriptor) :
    (Nesting.mk (above ++ block :: below) root).innermost.scope ∈
      .descriptors :: Scope.ofDescriptor := by
  cases above with
  | nil =>
    rw [List.nil_append, innermost_cons, isBlock]
    exact List.mem_cons_self
  | cons frame above => exact List.mem_cons_of_mem _ (inside frame List.mem_cons_self)

/-- Above a block of descriptors only those scopes are open that may be. -/
theorem Seated.ofDescriptor {above below : List Frame} {block : Frame} {root : Root}
    (seated : Seated dialect ⟨above ++ block :: below, root⟩)
    (isBlock : block.scope = .descriptors) :
    ∀ frame ∈ above, frame.scope ∈ Scope.ofDescriptor := by
  induction above with
  | nil => simp
  | cons frame above ih =>
    have inside := ih seated.pop
    have seat := seated.seat_of_cons
    exact List.forall_mem_cons.mpr
      ⟨mem_ofDescriptor_of_seat (scope_innermost_mem isBlock inside) seat, inside⟩

/-- Under a scope that sits on lists only there are lists. -/
theorem Seated.lists {frame : Frame} {below : List Frame} {root : Root}
    (seated : Seated dialect ⟨frame :: below, root⟩)
    (list : dialect.seats frame.scope = Scope.bodies) :
    ∀ outer ∈ below, outer.scope ∈ Scope.bodies := by
  induction below generalizing frame with
  | nil => simp
  | cons next below ih =>
    have seat : next.scope ∈ dialect.seats frame.scope := seated.seat_of_cons
    rw [list] at seat
    exact List.forall_mem_cons.mpr ⟨seat, ih seated.pop (seats_of_mem_bodies seat)⟩

/-- So there are no two blocks of descriptors. -/
theorem Seated.count_descriptors_le_one {opened : List Frame} {root : Root}
    (seated : Seated dialect ⟨opened, root⟩) :
    ((Nesting.mk opened root).frames.map Frame.scope).count .descriptors ≤ 1 := by
  induction opened with
  | nil => simp [frames, Root.frame]
  | cons frame below ih =>
    have inner := ih seated.pop
    by_cases isBlock : frame.scope = .descriptors
    · have lists := seated.lists (by rw [isBlock]; rfl)
      have none : ((Nesting.mk below root).frames.map Frame.scope).count .descriptors = 0 := by
        refine List.count_eq_zero.mpr fun member => ?_
        obtain ⟨other, isOther, isBlock⟩ := List.mem_map.mp member
        rcases List.mem_append.mp isOther with isBelow | isRoot
        · exact ne_descriptors_of_mem_bodies (lists other isBelow) isBlock
        · rw [List.mem_singleton.mp isRoot] at isBlock
          cases isBlock
      have all : ((Nesting.mk (frame :: below) root).frames.map Frame.scope).count .descriptors =
          ((Nesting.mk below root).frames.map Frame.scope).count .descriptors + 1 := by
        simp [frames, isBlock]
      rw [all, none]
    · have all : ((Nesting.mk (frame :: below) root).frames.map Frame.scope).count .descriptors =
          ((Nesting.mk below root).frames.map Frame.scope).count .descriptors := by
        simp [frames, isBlock]
      rw [all]
      exact inner

/-- A lexeme is settled in the block or in a scope above it. -/
theorem settle_above_descriptors {above below : List Frame} {block : Frame} {body : Body}
    (isBlock : block.scope = .descriptors)
    (inside : ∀ frame ∈ above, frame.scope ∈ Scope.ofDescriptor) :
    ∃ kept, kept <:+ above ∧
      (settle dialect rule lexeme body 0 (above ++ block :: below)).1 = kept ++ block :: below := by
  induction above with
  | nil =>
    obtain ⟨answer, settles, -⟩ := react_descriptors dialect rule lexeme
    rw [← isBlock] at settles
    refine ⟨[], List.nil_suffix, ?_⟩
    rw [List.nil_append, settle_cons_of_settle _ _ _ _ _ settles]
  | cons frame above ih =>
    obtain ⟨here, inner⟩ := List.forall_mem_cons.mp inside
    cases reacts : react dialect rule lexeme frame.scope with
    | settle answer =>
      refine ⟨frame :: above, List.suffix_rfl, ?_⟩
      rw [List.cons_append, settle_cons_of_settle _ _ _ _ _ reacts]
    | yield others =>
      have alone : others = 0 := by
        refine (others_of_yield reacts).resolve_right fun condition => ?_
        rw [condition.1] at here
        exact absurd here (by decide)
      obtain ⟨kept, isSuffix, same⟩ := ih inner
      refine ⟨kept, isSuffix.trans (List.suffix_cons frame above), ?_⟩
      rw [List.cons_append, settle_cons_of_yield _ _ _ _ _ reacts, alone, List.drop_zero, same]

end Nesting

/-! ## From the name of a rule to the end of its block -/

/-- Whether a block of descriptors is open. -/
def Nesting.HoldsDescriptors (nesting : Nesting) : Prop :=
  ∃ frame ∈ nesting.opened, frame.scope = .descriptors

/-- It is where it is innermost. -/
theorem Nesting.holdsDescriptors_of_innermost {nesting : Nesting}
    (isBlock : nesting.innermost.scope = .descriptors) : nesting.HoldsDescriptors := by
  obtain ⟨opened, root⟩ := nesting
  cases opened with
  | nil => cases isBlock
  | cons frame below => exact ⟨frame, List.mem_cons_self, isBlock⟩

namespace Context

/-- No block of descriptors is opened before a lexeme is settled. -/
theorem holdsDescriptors_of_settled {context : Context}
    (isOpen : (context.settled dialect lexeme).nesting.HoldsDescriptors) :
    context.nesting.HoldsDescriptors := by
  obtain ⟨frame, isFrame, isBlock⟩ := isOpen
  exact ⟨frame, (context.settled_opened_suffix dialect lexeme).mem isFrame, isBlock⟩

/-- Whether the block of a rule is awaited, or open. -/
def ReadsRule (context : Context) : Prop :=
  context.awaiting = some .descriptorBlock ∨ context.nesting.HoldsDescriptors

/-- Behind the name of a rule that stands within some scopes, in front of its block or in the block
with what is open there. -/
inductive InRule (rule : DescriptorRule) (around : Nesting) : Context → Prop
  /-- The block is awaited. -/
  | header : InRule rule around ⟨around, some .descriptorBlock, some rule⟩
  /-- The block is open. -/
  | block (above : List Frame) (indent : UInt64) (awaiting : Option Awaiting) :
    InRule rule around
      ⟨⟨above ++ ⟨.descriptors, indent⟩ :: around.opened, around.root⟩, awaiting, some rule⟩

/-- There the rule is the one against which descriptors are checked. -/
theorem InRule.rule_eq {rule : DescriptorRule} {around : Nesting} {context : Context}
    (inRule : context.InRule rule around) : context.rule = some rule := by
  cases inRule <;> rfl

variable {context : Context}

/-- Without a block that is open it is awaited. -/
theorem InRule.eq_header {rule : DescriptorRule} {around : Nesting}
    (inRule : context.InRule rule around) (unopened : ¬context.nesting.HoldsDescriptors) :
    context = ⟨around, some .descriptorBlock, some rule⟩ := by
  cases inRule with
  | header => rfl
  | block above indent awaiting =>
    exact absurd ⟨_, List.mem_append_right above List.mem_cons_self, rfl⟩ unopened

/-- Where no block of descriptors is open, a move that writes the rule only for its name leads to a
rule by its name only. -/
theorem opener_of_apply (layout : Layout) {move : Move}
    (free : ¬context.nesting.HoldsDescriptors) (names : move.NamesRule lexeme)
    (reads : (context.apply layout move).ReadsRule) :
    lexeme.token.kind = .atRule ∧ ∃ rule, DescriptorRule.ofName? lexeme.text = some rule ∧
      context.apply layout move = ⟨context.nesting, some .descriptorBlock, some rule⟩ := by
  have kept {frame : Frame} (isFrame : frame ∈ context.nesting.opened) :
      frame.scope ≠ .descriptors := fun isBlock => free ⟨frame, isFrame, isBlock⟩
  cases move with
  | check rule => exact ⟨names.1, rule, names.2, rfl⟩
  | await token =>
    exact absurd reads (not_or.mpr ⟨fun awaits => names (Option.some.inj awaits), free⟩)
  | stay => exact absurd reads (not_or.mpr ⟨nofun, free⟩)
  | leave =>
    refine absurd reads (not_or.mpr ⟨nofun, fun ⟨frame, isFrame, isBlock⟩ => ?_⟩)
    exact kept (List.mem_of_mem_tail isFrame) isBlock
  | enter scope =>
    refine absurd reads (not_or.mpr ⟨nofun, fun ⟨frame, isFrame, isBlock⟩ => ?_⟩)
    rcases List.mem_cons.mp isFrame with rfl | below
    · exact names isBlock
    · exact kept below isBlock
  | replace scope placing =>
    refine absurd reads (not_or.mpr ⟨nofun, fun ⟨frame, isFrame, isBlock⟩ => ?_⟩)
    rcases List.mem_cons.mp isFrame with rfl | below
    · cases placing <;> exact names isBlock
    · exact kept (List.mem_of_mem_tail below) isBlock

/-- So does a step, unless the block of a rule is awaited and the lexeme belongs to it. -/
theorem opener_of_step (layout : Layout) (free : ¬context.nesting.HoldsDescriptors)
    (unopened : context.awaiting = some .descriptorBlock → context.awaitedAnswer? lexeme = none)
    (reads : (context.step dialect layout lexeme).2.ReadsRule) :
    lexeme.token.kind = .atRule ∧ ∃ rule around,
      DescriptorRule.ofName? lexeme.text = some rule ∧
        (context.step dialect layout lexeme).2 =
          ⟨around, some .descriptorBlock, some rule⟩ := by
  cases awaits : context.awaitedAnswer? lexeme with
  | some answer =>
    obtain ⟨token, awaiting, found⟩ := Option.bind_eq_some_iff.mp awaits
    have other : token ≠ .descriptorBlock := by
      rintro rfl
      simp [unopened awaiting] at awaits
    rw [step_of_awaited layout awaits] at reads ⊢
    obtain ⟨isAtRule, rule, named, opens⟩ :=
      opener_of_apply layout free (awaited_namesRule other found) reads
    exact ⟨isAtRule, rule, _, named, opens⟩
  | none =>
    have outer : ¬(context.settled dialect lexeme).nesting.HoldsDescriptors :=
      mt holdsDescriptors_of_settled free
    rw [step_of_not_awaited layout awaits] at reads ⊢
    obtain ⟨isAtRule, rule, named, opens⟩ :=
      opener_of_apply layout outer (react_namesRule (context.react_settled dialect lexeme)) reads
    exact ⟨isAtRule, rule, _, named, opens⟩

/-- Around a rule there are lists only. -/
theorem InRule.lists {rule : DescriptorRule} {around : Nesting}
    (inRule : context.InRule rule around) (seated : context.Seated dialect) :
    ∀ frame ∈ around.opened, frame.scope ∈ Scope.bodies := by
  cases inRule with
  | header =>
    have list : around.innermost.scope ∈ Scope.bodies := seated.awaiting .descriptorBlock rfl
    obtain ⟨opened, root⟩ := around
    cases opened with
    | nil => simp
    | cons frame below =>
      exact List.forall_mem_cons.mpr ⟨list, seated.nesting.lists (seats_of_mem_bodies list)⟩
  | block above indent awaiting =>
    exact (seated.nesting.suffix (List.suffix_append above _)).lists rfl

/-- So there is no other block of descriptors. -/
theorem InRule.free {rule : DescriptorRule} {around : Nesting}
    (inRule : context.InRule rule around) (seated : context.Seated dialect) :
    ¬around.HoldsDescriptors := by
  rintro ⟨frame, isFrame, isBlock⟩
  exact ne_descriptors_of_mem_bodies (inRule.lists seated frame isFrame) isBlock

/-- In the block of a rule a move stays there, unless it leaves the block itself. -/
theorem apply_block {rule : DescriptorRule} {around : Nesting} {above : List Frame}
    {indent : UInt64}
    {awaiting : Option Awaiting} (inside : ∀ frame ∈ above, frame.scope ∈ Scope.ofDescriptor)
    (layout : Layout) {move : Move} (unchecked : ∀ rule, move ≠ .check rule)
    (unreplaced : ∀ scope placing, move ≠ .replace scope placing) :
    let after := apply layout
      ⟨⟨above ++ ⟨.descriptors, indent⟩ :: around.opened, around.root⟩, awaiting, some rule⟩ move
    after.InRule rule around ∨ (above = [] ∧ move = .leave ∧ after = ⟨around, none, none⟩) := by
  intro after
  cases move with
  | check rule => exact absurd rfl (unchecked rule)
  | replace scope placing => exact absurd rfl (unreplaced scope placing)
  | stay => exact .inl (.block above indent none)
  | await token => exact .inl (.block above indent (some token))
  | enter scope => exact .inl (.block (layout.frame scope .deeper :: above) indent none)
  | leave =>
    cases above with
    | nil => exact .inr ⟨rfl, rfl, rfl⟩
    | cons frame above =>
      have other := ne_descriptors_of_mem_ofDescriptor (inside frame List.mem_cons_self)
      have left : after =
          ⟨⟨above ++ ⟨.descriptors, indent⟩ :: around.opened, around.root⟩, none, some rule⟩ := by
        simp [after, apply, Nesting.pop, other]
      rw [left]
      exact .inl (.block above indent none)

/-- So does a step, unless it is the brace that closes the block. -/
theorem step_block {rule : DescriptorRule} {around : Nesting} {above : List Frame}
    {indent : UInt64} {awaiting : Option Awaiting}
    (inside : ∀ frame ∈ above, frame.scope ∈ Scope.ofDescriptor)
    (colon : ∀ token, awaiting = some token → token = .colon) (layout : Layout)
    (lexeme : Lexeme) :
    let context : Context :=
      ⟨⟨above ++ ⟨.descriptors, indent⟩ :: around.opened, around.root⟩, awaiting, some rule⟩
    let after := (context.step dialect layout lexeme).2
    after.InRule rule around ∨
      (lexeme.token.kind = .braceClose ∧ after = ⟨around, none, none⟩) := by
  intro context after
  cases awaits : context.awaitedAnswer? lexeme with
  | some answer =>
    obtain ⟨token, isAwaited, found⟩ := Option.bind_eq_some_iff.mp awaits
    obtain rfl := colon token isAwaited
    simp only [awaited, Option.ite_none_right_eq_some, Option.some.injEq] at found
    obtain ⟨-, rfl⟩ := found
    left
    have stepped : after = _ := congrArg Prod.snd (step_of_awaited layout awaits)
    rw [stepped]
    exact .block (layout.frame .value .deeper :: above) indent none
  | none =>
    obtain ⟨kept, isSuffix, opened⟩ := @Nesting.settle_above_descriptors dialect context.rule
      lexeme above around.opened ⟨.descriptors, indent⟩ around.root.body rfl inside
    have nested : ∀ frame ∈ kept, frame.scope ∈ Scope.ofDescriptor :=
      fun frame isFrame => inside frame (isSuffix.mem isFrame)
    have settled : context.settled dialect lexeme =
        ⟨⟨kept ++ ⟨.descriptors, indent⟩ :: around.opened, around.root⟩, awaiting, some rule⟩ :=
      congrArg (fun opened => Context.mk ⟨opened, around.root⟩ awaiting (some rule)) opened
    have reacts := context.react_settled dialect lexeme
    have stepped : after = _ := congrArg Prod.snd (step_of_not_awaited layout awaits)
    rw [settled] at reacts stepped
    obtain ⟨unchecked, unreplaced⟩ := react_inside (Nesting.scope_innermost_mem rfl nested) reacts
    rw [stepped]
    rcases apply_block nested layout unchecked unreplaced with stays | ⟨rfl, leaves, closed⟩
    · exact .inl stays
    · obtain ⟨answer, settles, brace, -⟩ := react_descriptors dialect context.rule lexeme
      have same : answer = context.settledAnswer dialect lexeme :=
        Reaction.settle.inj (settles.symm.trans reacts)
      exact .inr ⟨brace (by rw [same, leaves]), closed⟩

/-- In front of the block of a rule, a step goes on to the block or over a name in front of it, or
it goes as if the block were not awaited. -/
theorem step_header {rule : DescriptorRule} {around : Nesting}
    (header : context = ⟨around, some .descriptorBlock, some rule⟩) (layout : Layout)
    (lexeme : Lexeme) :
    ((context.step dialect layout lexeme).2.InRule rule around ∧
        lexeme.token.kind ≠ .atRule) ∨
      context.awaitedAnswer? lexeme = none := by
  subst header
  cases awaits : awaitedAnswer? ⟨around, some .descriptorBlock, some rule⟩ lexeme with
  | none => exact .inr rfl
  | some answer =>
    left
    have found : awaited (some rule) lexeme .descriptorBlock = some answer := awaits
    rw [step_of_awaited layout awaits]
    simp only [awaited] at found
    split at found
    · next brace =>
      cases found
      exact ⟨.block [] _ none, by simp [brace]⟩
    · next word =>
      split at found <;> cases found
      exact ⟨.header, by simp [word]⟩
    · contradiction

/-- Where its block is open, a step stays within the rule, or it is the brace that closes the
block. -/
theorem InRule.step {rule : DescriptorRule} {around : Nesting}
    (inRule : context.InRule rule around) (seated : context.Seated dialect)
    (isOpen : context.nesting.HoldsDescriptors) (layout : Layout) (lexeme : Lexeme) :
    let after := (context.step dialect layout lexeme).2
    context.awaiting ≠ some .descriptorBlock ∧
      (after.InRule rule around ∨
        (lexeme.token.kind = .braceClose ∧ after = ⟨around, none, none⟩)) := by
  intro after
  have free := inRule.free seated
  cases inRule with
  | header => exact absurd isOpen free
  | block above indent awaiting =>
    have inside := seated.nesting.ofDescriptor rfl
    have colon : ∀ token, awaiting = some token → token = .colon := fun token isAwaited =>
      eq_colon_of_seat (Nesting.scope_innermost_mem rfl inside) (seated.awaiting token isAwaited)
    exact ⟨fun isAwaited => absurd (colon _ isAwaited) nofun,
      step_block inside colon layout lexeme⟩

/-- A word that the block settles is checked against the rule of the context. -/
theorem style_of_settled_descriptors (layout : Layout) (isWord : lexeme.token.kind = .word)
    (notAwaited : context.awaitedAnswer? lexeme = none)
    (settles : (context.settled dialect lexeme).nesting.innermost.scope = .descriptors) :
    (context.step dialect layout lexeme).1 =
      (if dialect.admits context.rule lexeme.word then Category.property else .error : Style) := by
  have reacts := context.react_settled dialect lexeme
  obtain ⟨answer, own, -, style⟩ := react_descriptors dialect context.rule lexeme
  rw [settles, own] at reacts
  rw [step_of_not_awaited layout notAwaited, ← style isWord]
  exact congrArg Answer.style (Reaction.settle.inj reacts).symm

/-! ## Runs -/

/-- The rule, by what is read from a context on. The name of an at-rule opened it within some
scopes, and no at-rule came between the name and the block; and from the name on it is what is
checked against. -/
inductive RuleOf (dialect : Dialect) (origin : Context) (rule : DescriptorRule)
    (around : Nesting) : List Occurrence → Prop
  | opened {earlier later : List Occurrence} {opener : Occurrence}
    (isAtRule : opener.kind = .atRule)
    (named : DescriptorRule.ofName? opener.lexeme.text = some rule)
    (opens : origin.feed dialect (earlier ++ [opener]) =
      ⟨around, some .descriptorBlock, some rule⟩)
    (last : ∀ read token, read ++ [token] <+: later →
      (origin.feed dialect (earlier ++ opener :: read)).awaiting = some .descriptorBlock →
        token.kind ≠ .atRule)
    (throughout : ∀ read, read <+: later →
      (origin.feed dialect (earlier ++ opener :: read)).InRule rule around) :
    RuleOf dialect origin rule around (earlier ++ opener :: later)

variable {origin : Context} {tokens : List Occurrence} {token : Occurrence}

/-- Scopes stay seated. -/
theorem Seated.feed (seated : origin.Seated dialect) (tokens : List Occurrence) :
    (origin.feed dialect tokens).Seated dialect := by
  induction tokens generalizing origin with
  | nil => exact seated
  | cons token tokens ih => exact ih (seated.step token.layout token.lexeme)

namespace RuleOf

variable {rule : DescriptorRule} {around : Nesting}

/-- The name of an at-rule opens its rule. -/
theorem of_opener (isAtRule : token.kind = .atRule)
    (named : DescriptorRule.ofName? token.lexeme.text = some rule)
    (opens : origin.feed dialect (tokens ++ [token]) =
      ⟨around, some .descriptorBlock, some rule⟩) :
    RuleOf dialect origin rule around (tokens ++ [token]) := by
  refine .opened isAtRule named opens (fun read next isPrefix => ?_) fun read isPrefix => ?_
  · exact absurd (List.prefix_nil.mp isPrefix) (by simp)
  · rw [List.prefix_nil.mp isPrefix, opens]
    exact .header

/-- It is the rule that is checked against. -/
theorem inRule (ruleOf : RuleOf dialect origin rule around tokens) :
    (origin.feed dialect tokens).InRule rule around := by
  cases ruleOf with
  | opened _ _ _ _ throughout => exact throughout _ (List.prefix_refl _)

/-- It is the same behind a token that stays within the rule. -/
theorem concat (ruleOf : RuleOf dialect origin rule around tokens)
    (inRule : (origin.feed dialect (tokens ++ [token])).InRule rule around)
    (other : (origin.feed dialect tokens).awaiting = some .descriptorBlock →
      token.kind ≠ .atRule) :
    RuleOf dialect origin rule around (tokens ++ [token]) := by
  cases ruleOf with
  | @opened earlier later opener isAtRule named opens last throughout =>
    rw [List.append_assoc, List.cons_append] at inRule ⊢
    refine .opened isAtRule named opens (fun read next isPrefix => ?_) fun read isPrefix => ?_
    · rcases List.prefix_concat_iff.mp isPrefix with whole | inner
      · obtain ⟨rfl, same⟩ := List.append_inj' whole rfl
        obtain rfl : next = token := by simpa using same
        exact other
      · exact last read next inner
    · rcases List.prefix_concat_iff.mp isPrefix with rfl | inner
      · exact inRule
      · exact throughout read inner

end RuleOf

/-- Where the block of a rule is awaited or open behind tokens, it is so by the name of a rule among
them. -/
theorem exists_ruleOf (seated : origin.Seated dialect) (none : ¬origin.ReadsRule)
    (reads : (origin.feed dialect tokens).ReadsRule) :
    ∃ rule around, RuleOf dialect origin rule around tokens := by
  induction tokens using List.reverseRecOn with
  | nil => exact absurd reads none
  | append_singleton tokens token ih =>
    have here := seated.feed tokens
    have next := feed_concat dialect origin tokens token
    rw [next] at reads
    have opener (free : ¬(origin.feed dialect tokens).nesting.HoldsDescriptors)
        (unopened : (origin.feed dialect tokens).awaiting = some .descriptorBlock →
          (origin.feed dialect tokens).awaitedAnswer? token.lexeme = Option.none) :
        ∃ rule around, RuleOf dialect origin rule around (tokens ++ [token]) := by
      obtain ⟨isAtRule, rule, around, named, opens⟩ :=
        opener_of_step token.layout free unopened reads
      exact ⟨rule, around, .of_opener isAtRule named (next.trans opens)⟩
    by_cases within : (origin.feed dialect tokens).ReadsRule
    · obtain ⟨rule, around, ruleOf⟩ := ih within
      by_cases isOpen : (origin.feed dialect tokens).nesting.HoldsDescriptors
      · obtain ⟨other, stays | ⟨-, closed⟩⟩ :=
          ruleOf.inRule.step here isOpen token.layout token.lexeme
        · rw [← next] at stays
          exact ⟨rule, around, ruleOf.concat stays fun isAwaited => absurd isAwaited other⟩
        · rw [closed] at reads
          exact absurd reads (not_or.mpr ⟨nofun, ruleOf.inRule.free here⟩)
      · rcases step_header (ruleOf.inRule.eq_header isOpen) token.layout token.lexeme with
          ⟨stays, other⟩ | notAwaited
        · rw [← next] at stays
          exact ⟨rule, around, ruleOf.concat stays fun _ => other⟩
        · exact opener isOpen fun _ => notAwaited
    · exact opener (fun isOpen => within (.inr isOpen))
        fun isAwaited => absurd (.inl isAwaited) within

end Context

namespace Mode

/-- What has been offered to the grammar on the way to a state, first to last. White space is not
offered. -/
inductive Reads (mode : Mode) (indent : UInt64) : List Occurrence → ParseState → Prop
  /-- Nothing at the start of a text. -/
  | start : Reads mode indent [] (mode.startState indent)
  /-- Nothing more where white space is passed. -/
  | blank (cursor : Cursor) {tokens : List Occurrence} {state : ParseState} :
    Reads mode indent tokens state → mode.offered? cursor state.continuation = none →
      Reads mode indent tokens (mode.nextToken cursor state).2.2
  /-- One lexeme more anywhere else. -/
  | token (cursor : Cursor) {tokens : List Occurrence} {state : ParseState} {lexeme : Lexeme} :
    Reads mode indent tokens state →
      mode.offered? cursor state.continuation = some lexeme →
      Reads mode indent (tokens ++ [⟨lexeme, mode.layout cursor⟩])
        (mode.nextToken cursor state).2.2

variable {mode : Mode} {indent : UInt64} {state : ParseState} {tokens : List Occurrence}

/-- The grammar comes where what is offered leads it. -/
theorem Reads.context_eq (reads : mode.Reads indent tokens state) :
    state.context = (Context.start mode.body indent).feed mode.dialect tokens := by
  induction reads with
  | start => rfl
  | blank cursor _ blank ih => rw [mode.nextToken_state_of_blank blank, ih]
  | token cursor _ offered ih =>
    rw [mode.nextToken_state_of_offered offered, Context.feed_concat, ih]

/-- There is something that is offered on every way. -/
theorem Reachable.exists_reads (reachable : mode.Reachable indent state) :
    ∃ tokens, mode.Reads indent tokens state := by
  induction reachable with
  | start => exact ⟨[], .start⟩
  | @next cursor state _ ih =>
    obtain ⟨tokens, reads⟩ := ih
    cases offered : mode.offered? cursor state.continuation with
    | none => exact ⟨tokens, reads.blank cursor offered⟩
    | some lexeme => exact ⟨_, reads.token cursor offered⟩

/-- How descriptors are checked behind tokens. -/
structure OwnRule (mode : Mode) (indent : UInt64) (tokens : List Occurrence) (state : ParseState) :
    Prop where
  /-- One block of descriptors is open at most. -/
  single : (state.context.nesting.frames.map Frame.scope).count .descriptors ≤ 1
  /-- Only values are open in it, with their parentheses, interpolations and nested properties. -/
  inside : ∀ above block below, state.context.nesting.opened = above ++ block :: below →
    block.scope = .descriptors → ∀ frame ∈ above, frame.scope ∈ Scope.ofDescriptor
  /-- While the block is awaited or open, the rule that is checked against is the one that opened
  it. -/
  own : state.context.ReadsRule → ∃ rule around, state.context.rule = some rule ∧
    Context.RuleOf mode.dialect (.start mode.body indent) rule around tokens
  /-- In the block it stays what it is up to the brace that closes the block. -/
  kept : state.context.nesting.HoldsDescriptors → ∀ rule around,
    Context.RuleOf mode.dialect (.start mode.body indent) rule around tokens →
      ∀ layout lexeme,
        let after := (state.context.step mode.dialect layout lexeme).2
        after.InRule rule around ∨
          (lexeme.token.kind = .braceClose ∧ after = ⟨around, none, none⟩)
  /-- A word that the block settles is painted as a property if that rule admits it, and as an error
  if not. -/
  word : ∀ cursor lexeme, mode.offered? cursor state.continuation = some lexeme →
    lexeme.token.kind = .word → state.context.awaitedAnswer? lexeme = none →
    (state.context.settled mode.dialect lexeme).nesting.innermost.scope = .descriptors →
      ∃ rule around, Context.RuleOf mode.dialect (.start mode.body indent) rule around tokens ∧
        (mode.nextToken cursor state).1.style =
          (if mode.dialect.admits (some rule) lexeme.word then Category.property else .error :
            Style)

/-- Wherever reading comes, a block of descriptors is checked against the rule that opened it. -/
theorem Reachable.ownRule (reachable : mode.Reachable indent state) :
    (∃ tokens, mode.Reads indent tokens state) ∧
      ∀ tokens, mode.Reads indent tokens state → mode.OwnRule indent tokens state := by
  refine ⟨reachable.exists_reads, fun tokens reads => ?_⟩
  let origin := Context.start mode.body indent
  have seated := reachable.seated
  have bare : ¬origin.ReadsRule := not_or.mpr ⟨nofun, nofun⟩
  have own (readsRule : state.context.ReadsRule) : ∃ rule around,
      state.context.rule = some rule ∧ origin.RuleOf mode.dialect rule around tokens := by
    rw [reads.context_eq] at readsRule ⊢
    obtain ⟨rule, around, ruleOf⟩ :=
      Context.exists_ruleOf (Context.seated_start mode.body indent) bare readsRule
    exact ⟨rule, around, ruleOf.inRule.rule_eq, ruleOf⟩
  exact {
    single := seated.nesting.count_descriptors_le_one
    inside := by
      intro above block below opened isBlock
      have whole : Nesting.Seated mode.dialect
          ⟨above ++ block :: below, state.context.nesting.root⟩ := by
        rw [← opened]
        exact seated.nesting
      exact whole.ofDescriptor isBlock
    own
    kept := by
      intro isOpen rule around ruleOf layout lexeme
      have inRule := ruleOf.inRule
      rw [← reads.context_eq] at inRule
      exact (inRule.step seated isOpen layout lexeme).2
    word := by
      intro cursor lexeme offered isWord notAwaited settles
      have isOpen := Nesting.holdsDescriptors_of_innermost settles
      obtain ⟨rule, around, checked, ruleOf⟩ :=
        own (.inr (Context.holdsDescriptors_of_settled isOpen))
      refine ⟨rule, around, ruleOf, ?_⟩
      rw [mode.nextToken_style_of_offered offered, ← checked]
      exact Context.style_of_settled_descriptors _ isWord notAwaited settles }

/-- Within two parentheses in the value of a descriptor it is the rule of a font. -/
theorem ownRule_openDescriptor :
    (ofDialect .css).Reachable 0 openDescriptor ∧
      openDescriptor.context.nesting.HoldsDescriptors ∧
      openDescriptor.context.rule = some .fontFace ∧
      (∃ tokens, (ofDialect .css).Reads 0 tokens openDescriptor) ∧
      ∀ tokens, (ofDialect .css).Reads 0 tokens openDescriptor →
        (ofDialect .css).OwnRule 0 tokens openDescriptor :=
  ⟨reachable_openDescriptor, ⟨⟨.descriptors, 2⟩, by decide, rfl⟩, rfl,
    reachable_openDescriptor.ownRule⟩

end Mode

end Stylesheet
