import Stylesheet.Proofs.Continuations
import Stylesheet.Proofs.DescriptorRules

/-!
# Rules that are left in front of their blocks

The rule against which descriptors are checked is forgotten at the brace that closes its block. But
a rule may be left in front of its block, by any token that does not belong there, such as a
semicolon; and nothing forgets it then. So the rule outlives its at-rule: it stays until the name of
another at-rule makes the block of a rule awaited again (`Context.Abandoned`). That is the only way.
A rule is kept exactly where its block is awaited or open, or where it was abandoned so
(`Mode.rule_outlives_iff`), and a document in which everything is closed ends as it has started
exactly where none was.
-/
namespace Stylesheet

open Grammar (react awaited)

variable {dialect : Dialect} {lexeme : Lexeme}

/-- In front of the block of a rule a lexeme is awaited if it opens the block, or if it is a word
and the rule is that of a counter style, which is named there. -/
theorem awaited_descriptorBlock_eq_none_iff {rule : Option DescriptorRule} :
    awaited rule lexeme .descriptorBlock = none ↔
      lexeme.token.kind ≠ .braceOpen ∧ (lexeme.token.kind = .word → rule ≠ some .counterStyle) := by
  simp only [awaited]
  split
  · next brace => simp [brace]
  · next word => simp [word]
  · next notBrace notWord => exact iff_of_true rfl ⟨notBrace, fun word => absurd word notWord⟩

namespace Context

variable {context origin : Context} {rule : DescriptorRule} {tokens : List Occurrence}

/-! ## What a rule outlives -/

/-- Where no block of descriptors is open, a move keeps the rule or makes the block of one
awaited. -/
theorem rule_apply (layout : Layout) {move : Move} (free : ¬context.nesting.HoldsDescriptors)
    (idle : ¬(context.apply layout move).ReadsRule) :
    (context.apply layout move).rule = context.rule := by
  cases move with
  | check rule => exact absurd (.inl rfl) idle
  | leave => exact if_neg fun isBlock => free (Nesting.holdsDescriptors_of_innermost isBlock)
  | stay | await _ | enter _ | replace _ _ => rfl

/-- So does a step. -/
theorem rule_step (layout : Layout) (free : ¬context.nesting.HoldsDescriptors)
    (idle : ¬(context.step dialect layout lexeme).2.ReadsRule) :
    (context.step dialect layout lexeme).2.rule = context.rule := by
  cases awaits : context.awaitedAnswer? lexeme with
  | some answer =>
    rw [step_of_awaited layout awaits] at idle ⊢
    exact rule_apply layout free idle
  | none =>
    rw [step_of_not_awaited layout awaits] at idle ⊢
    exact rule_apply layout (mt holdsDescriptors_of_settled free) idle

/-- If the block of a rule is not awaited behind such a step, none is open there, and the rule is
kept. -/
theorem step_idle (layout : Layout) (free : ¬context.nesting.HoldsDescriptors)
    (unopened : context.awaiting = some .descriptorBlock → context.awaitedAnswer? lexeme = none)
    (idle : (context.step dialect layout lexeme).2.awaiting ≠ some .descriptorBlock) :
    ¬(context.step dialect layout lexeme).2.ReadsRule ∧
      (context.step dialect layout lexeme).2.rule = context.rule := by
  have unread : ¬(context.step dialect layout lexeme).2.ReadsRule := by
    intro reads
    obtain ⟨-, rule, around, -, opens⟩ := opener_of_step layout free unopened reads
    exact idle (by rw [opens])
  exact ⟨unread, rule_step layout free unread⟩

/-- Within a rule its block is awaited or open. -/
theorem InRule.readsRule {around : Nesting} (inRule : context.InRule rule around) :
    context.ReadsRule := by
  cases inRule with
  | header => exact .inl rfl
  | block above indent awaiting =>
    exact .inr ⟨_, List.mem_append_right above List.mem_cons_self, rfl⟩

/-- By what is read from a context on, a rule was left in front of its block. A token came there
that does not belong to the header of the rule, and behind it no block of a rule has been
awaited. -/
inductive Abandoned (dialect : Dialect) (origin : Context) (rule : DescriptorRule) :
    List Occurrence → Prop
  | left {earlier later : List Occurrence} {other : Occurrence}
    (named : (origin.feed dialect earlier).awaiting = some .descriptorBlock)
    (rule_eq : (origin.feed dialect earlier).rule = some rule)
    (notBlock : other.kind ≠ .braceOpen) (notName : other.kind = .word → rule ≠ .counterStyle)
    (since : ∀ read, read <+: later →
      (origin.feed dialect (earlier ++ other :: read)).awaiting ≠ some .descriptorBlock) :
    Abandoned dialect origin rule (earlier ++ other :: later)

namespace Abandoned

/-- It is left behind one token more if no block of a rule is awaited there. -/
theorem concat {token : Occurrence} (abandoned : Abandoned dialect origin rule tokens)
    (idle : (origin.feed dialect (tokens ++ [token])).awaiting ≠ some .descriptorBlock) :
    Abandoned dialect origin rule (tokens ++ [token]) := by
  cases abandoned with
  | @left earlier later other named rule_eq notBlock notName since =>
    rw [List.append_assoc, List.cons_append] at idle ⊢
    refine .left named rule_eq notBlock notName fun read isPrefix => ?_
    rcases List.prefix_concat_iff.mp isPrefix with rfl | inner
    · exact idle
    · exact since read inner

/-- It is kept, and no rule is being read. -/
theorem kept (seated : origin.Seated dialect) (abandoned : Abandoned dialect origin rule tokens) :
    (origin.feed dialect tokens).rule = some rule ∧ ¬(origin.feed dialect tokens).ReadsRule := by
  cases abandoned with
  | @left earlier later other named rule_eq notBlock notName since =>
    induction later using List.reverseRecOn with
    | nil =>
      have header : (origin.feed dialect earlier) =
          ⟨(origin.feed dialect earlier).nesting, some .descriptorBlock, some rule⟩ := by
        rw [← named, ← rule_eq]
      have inRule : (origin.feed dialect earlier).InRule rule
          (origin.feed dialect earlier).nesting := by
        rw [header]
        exact .header
      have notAwaited : (origin.feed dialect earlier).awaitedAnswer? other.lexeme = none := by
        rw [awaitedAnswer?, named, rule_eq, Option.bind_some, awaited_descriptorBlock_eq_none_iff]
        exact ⟨notBlock, fun word counter => notName word (Option.some.inj counter)⟩
      have idle := since [] (List.prefix_refl [])
      rw [feed_concat] at idle ⊢
      obtain ⟨unread, same⟩ := step_idle other.layout (inRule.free (seated.feed earlier))
        (fun _ => notAwaited) idle
      exact ⟨same.trans rule_eq, unread⟩
    | append_singleton later token ih =>
      obtain ⟨before, unread⟩ := ih fun read isPrefix =>
        since read (isPrefix.trans (List.prefix_append later [token]))
      have idle := since (later ++ [token]) (List.prefix_refl _)
      rw [← List.cons_append, ← List.append_assoc, feed_concat] at idle ⊢
      obtain ⟨stillUnread, same⟩ := step_idle token.layout (fun isOpen => unread (.inr isOpen))
        (fun awaits => absurd (.inl awaits) unread) idle
      exact ⟨same.trans before, stillUnread⟩

end Abandoned

/-- A rule that a token keeps, though no rule is read behind it any more, is left there in front of
its block. -/
theorem InRule.abandoned {opened : DescriptorRule} {around : Nesting} {token : Occurrence}
    (inRule : (origin.feed dialect tokens).InRule opened around)
    (seated : (origin.feed dialect tokens).Seated dialect)
    (kept : (origin.feed dialect (tokens ++ [token])).rule = some rule)
    (idle : ¬(origin.feed dialect (tokens ++ [token])).ReadsRule) :
    Abandoned dialect origin rule (tokens ++ [token]) := by
  have unawaited : (origin.feed dialect (tokens ++ [token])).awaiting ≠ some .descriptorBlock :=
    fun awaits => idle (.inl awaits)
  rw [feed_concat] at kept idle
  by_cases isOpen : (origin.feed dialect tokens).nesting.HoldsDescriptors
  · -- A block is left at its brace only, which forgets the rule.
    obtain ⟨-, stays | ⟨-, closed⟩⟩ := inRule.step seated isOpen token.layout token.lexeme
    · exact absurd stays.readsRule idle
    · rw [closed] at kept
      contradiction
  · have header := inRule.eq_header isOpen
    rcases step_header header token.layout token.lexeme with ⟨stays, -⟩ | notAwaited
    · exact absurd stays.readsRule idle
    · rw [rule_step token.layout isOpen idle, header] at kept
      obtain rfl : opened = rule := Option.some.inj kept
      rw [header] at notAwaited
      obtain ⟨notBlock, notName⟩ := awaited_descriptorBlock_eq_none_iff.mp notAwaited
      refine .left (by rw [header]) (by rw [header]) notBlock
        (fun word counter => notName word (congrArg some counter)) fun read isPrefix => ?_
      rw [List.prefix_nil.mp isPrefix]
      exact unawaited

/-- A rule that is kept while none is being read was abandoned. -/
theorem abandoned_of_rule (seated : origin.Seated dialect) (unread : ¬origin.ReadsRule)
    (nothing : origin.rule = none) (kept : (origin.feed dialect tokens).rule = some rule)
    (idle : ¬(origin.feed dialect tokens).ReadsRule) : Abandoned dialect origin rule tokens := by
  induction tokens using List.reverseRecOn with
  | nil => simp [nothing] at kept
  | append_singleton tokens token ih =>
    by_cases reads : (origin.feed dialect tokens).ReadsRule
    · obtain ⟨opened, around, ruleOf⟩ := exists_ruleOf seated unread reads
      exact ruleOf.inRule.abandoned (seated.feed tokens) kept idle
    · have free : ¬(origin.feed dialect tokens).nesting.HoldsDescriptors :=
        fun isOpen => reads (.inr isOpen)
      have unawaited : (origin.feed dialect (tokens ++ [token])).awaiting ≠
          some .descriptorBlock := fun awaits => idle (.inl awaits)
      rw [feed_concat] at kept idle
      rw [rule_step token.layout free idle] at kept
      exact (ih kept reads).concat unawaited

end Context

namespace Mode

variable {mode : Mode} {indent : UInt64} {state : ParseState} {tokens : List Occurrence}

/-- How a rule is kept behind tokens. -/
structure KeepsRule (mode : Mode) (indent : UInt64) (tokens : List Occurrence)
    (state : ParseState) : Prop where
  /-- One is kept where its block is awaited or open, and where it was abandoned. -/
  isSome_iff : state.context.rule.isSome ↔ state.context.ReadsRule ∨
    ∃ rule, Context.Abandoned mode.dialect (.start mode.body indent) rule tokens
  /-- The one that was abandoned is kept, and no block of a rule is awaited or open then. -/
  abandoned : ∀ rule, Context.Abandoned mode.dialect (.start mode.body indent) rule tokens →
    state.context.rule = some rule ∧ ¬state.context.ReadsRule
  /-- Where everything is closed the state is that of the start, unless one was abandoned. -/
  closed : state.continuation = none → state.context.awaiting = none →
    state.context.nesting.opened = [] → (state = mode.startState indent ↔
      ∀ rule, ¬Context.Abandoned mode.dialect (.start mode.body indent) rule tokens)

/-- A rule is kept so wherever reading comes. -/
theorem Reads.keepsRule (reads : mode.Reads indent tokens state)
    (reachable : mode.Reachable indent state) : mode.KeepsRule indent tokens state := by
  have seated : (Context.start mode.body indent).Seated mode.dialect :=
    Context.seated_start mode.body indent
  have unread : ¬(Context.start mode.body indent).ReadsRule := not_or.mpr ⟨nofun, nofun⟩
  have abandoned (rule : DescriptorRule)
      (left : Context.Abandoned mode.dialect (.start mode.body indent) rule tokens) :
      state.context.rule = some rule ∧ ¬state.context.ReadsRule := by
    rw [reads.context_eq]
    exact left.kept seated
  have isSome_iff : state.context.rule.isSome ↔ state.context.ReadsRule ∨
      ∃ rule, Context.Abandoned mode.dialect (.start mode.body indent) rule tokens := by
    constructor
    · intro isSome
      obtain ⟨rule, kept⟩ := Option.isSome_iff_exists.mp isSome
      by_cases isRead : state.context.ReadsRule
      · exact .inl isRead
      · rw [reads.context_eq] at kept isRead
        exact .inr ⟨rule, Context.abandoned_of_rule seated unread rfl kept isRead⟩
    · rintro (isRead | ⟨rule, left⟩)
      · rw [reads.context_eq] at isRead ⊢
        obtain ⟨rule, around, ruleOf⟩ := Context.exists_ruleOf seated unread isRead
        rw [ruleOf.inRule.rule_eq]
        rfl
      · rw [(abandoned rule left).1]
        rfl
  refine ⟨isSome_iff, abandoned, fun nothing idle bare => ⟨?_, fun unabandoned => ?_⟩⟩
  · rintro rfl rule left
    have kept := (abandoned rule left).1
    contradiction
  · have free : ¬state.context.ReadsRule := by
      rintro (awaits | ⟨frame, isFrame, -⟩)
      · simp [idle] at awaits
      · simp [bare] at isFrame
    have forgotten : state.context.rule = none := by
      rw [← Option.not_isSome_iff_eq_none, isSome_iff]
      exact not_or.mpr ⟨free, fun ⟨rule, left⟩ => unabandoned rule left⟩
    have root := reachable.root
    obtain ⟨continuation, ⟨⟨opened, _⟩, awaiting, rule⟩⟩ := state
    simp only at nothing idle bare forgotten root
    subst nothing idle bare forgotten root
    rfl

/-- Wherever reading comes, and so at the end of every document, a rule is kept where its block is
awaited or open and where it was abandoned, and nowhere else. -/
theorem rule_outlives_iff (mode : Mode) :
    (∀ indent state, mode.Reachable indent state →
      (∃ tokens, mode.Reads indent tokens state) ∧
        ∀ tokens, mode.Reads indent tokens state → mode.KeepsRule indent tokens state) ∧
      ∀ document, ∃ tokens, mode.Reads 0 tokens (mode.finalState document) ∧
        mode.KeepsRule 0 tokens (mode.finalState document) := by
  refine ⟨fun indent state reachable => ⟨reachable.exists_reads, fun tokens reads => ?_⟩, ?_⟩
  · exact reads.keepsRule reachable
  · intro document
    have reachable := mode.reachable_linesEnd 0 (Text.lines document)
    obtain ⟨tokens, reads⟩ := reachable.exists_reads
    exact ⟨tokens, reads, reads.keepsRule reachable⟩

/-- In a block behind the name of a font that a semicolon has left, with each token on a line of its
own. -/
def leftFont : ParseState :=
  { continuation := none
    context :=
      { nesting := ⟨[⟨.body .block, 2⟩], ⟨.top, 0⟩⟩
        awaiting := none
        rule := some .fontFace } }

/-- Reading comes there. -/
theorem reachable_leftFont : (ofDialect .css).Reachable 0 leftFont := by
  have bare : (ofDialect .css).Reachable 0 _ := .start
  have rule := bare.next (.ofLine 4 "@font-face".toList)
  have left := rule.next (.ofLine 4 [';'])
  exact left.next (.ofLine 4 ['{'])

/-- There the rule of the font is kept because it was abandoned. -/
theorem rule_outlives_leftFont :
    (ofDialect .css).Reachable 0 leftFont ∧ leftFont.context.rule = some .fontFace ∧
      ¬leftFont.context.ReadsRule ∧
      ∃ tokens, (ofDialect .css).Reads 0 tokens leftFont ∧
        Context.Abandoned .css (.start .top 0) .fontFace tokens := by
  obtain ⟨⟨tokens, reads⟩, keeps⟩ := (ofDialect .css).rule_outlives_iff.1 0 _ reachable_leftFont
  have unread : ¬leftFont.context.ReadsRule := by
    rintro (awaits | ⟨frame, isFrame, isBlock⟩)
    · contradiction
    · simp only [leftFont, List.mem_singleton] at isFrame
      rw [isFrame] at isBlock
      contradiction
  obtain ⟨rule, left⟩ := ((keeps tokens reads).isSome_iff.mp rfl).resolve_left unread
  obtain rfl : .fontFace = rule := Option.some.inj ((keeps tokens reads).abandoned rule left).1
  exact ⟨reachable_leftFont, rfl, unread, tokens, reads, left⟩

/-- Behind the name of a font and a semicolon everything is closed, and the rule of the font is
kept; so the document does not end as it has started. -/
theorem rule_outlives_semicolon :
    let css := ofDialect .css
    let final := css.finalState "@font-face;".toList
    css.Reachable 0 final ∧ final.continuation = none ∧
      final.context.state = .within (.body .top) ∧ final.context.nesting = ⟨[], ⟨.top, 0⟩⟩ ∧
      final.context.rule = some .fontFace ∧ final ≠ css.startState 0 :=
  ⟨(ofDialect .css).reachable_linesEnd 0 _, by decide, by decide, by decide, by decide, by decide⟩

end Mode

end Stylesheet
