import CppSyntax.Proofs.Expression.Reading

/-!
The written forms of expressions, one after the other: each is read as the expression it is made for
if its operands are read so.
-/

namespace CppSyntax

open CppSyntax.Parser Grammar

section

variable {level nest : Nat} {glyphs rest : List Glyph} {value : Expr}

theorem postfixed_of_primary (reads : RuleReads (fun g => g.primary) nest glyphs (· = value) rest) :
    ReadsInto (fun g => g.postfixed) (fun g => g.postfixStep) nest glyphs value rest :=
  fun g derived sure context room _ _ later =>
    (reads g derived sure context room).andThen (later g.fuel)

/-- The expression rule with everything behind it that is not a comma. -/
theorem ReadsAs.whole (reads : ReadsAs level nest value glyphs rest)
    (loose : tightness rest < Precedence.comma) :
    RuleReads (fun g => g.expression) (nest + 1) glyphs (· = value) rest :=
  (reads.expression (Nat.lt_trans loose (by decide))).stop (stopsBefore_comma reads.more loose)

theorem ReadsAs.bracketed (reads : ReadsAs level nest value glyphs rest)
    (loose : tightness rest < Precedence.comma) :
    RuleReads (fun g => g.bracketed) (nest + 1) glyphs (· = value) rest :=
  fun g derived sure _ room =>
    .angleCloses (reads.whole loose g derived sure _ room.bracketed)

end

namespace ReadsAs

variable {level nest : Nat} {glyphs rest : List Glyph} {value : Expr} {joint closed : Bool}

private theorem front_leaf {kind : TokenKind} (leaf : kind.isLeaf = true) :
    ∃ front, (⟨kind, joint⟩ :: rest : List Glyph) = front ++ rest ∧
      Bracketed (· ≠ .punctuator .ellipsis) front := by
  refine ⟨[⟨kind, joint⟩], rfl, .token ?_ ?_ ?_ ?_ .nil⟩
  all_goals
    cases kind with
    | punctuator mark => cases leaf
    | endOfFile => cases leaf
    | _ => first | rfl | nofun

theorem integer {text : String} (more : rest ≠ []) :
    ReadsAs level 0 (.literal ⟨.integer, text⟩) (⟨.integer text, joint⟩ :: rest) rest := by
  refine ofPostfixed more (front_leaf rfl) ⟨_, _, rfl, .inl rfl⟩ (postfixed_of_primary ?_)
  intro g derived sure context room
  refine .byPlace fun state known => ?_
  rw [State.kind_of_glyphs known]
  exact (Reads.advance more (by simp)).bind fun _ _ => .pure rfl

/-- The expression that a word alone stands for. -/
def wordExpression? : Keyword → Option Expr
  | .kwTrue => some (.literal ⟨.boolean, "true"⟩)
  | .kwFalse => some (.literal ⟨.boolean, "false"⟩)
  | .kwNullptr => some (.literal ⟨.nullPointer, "nullptr"⟩)
  | .kwThis => some .this
  | _ => none

theorem word {word : Keyword} (known : wordExpression? word = some value) (more : rest ≠ []) :
    ReadsAs level 0 value (⟨.keyword word, joint⟩ :: rest) rest := by
  have leaf : (TokenKind.keyword word).isLeaf = true := by
    cases word <;> first | rfl | cases known
  refine ofPostfixed more (front_leaf leaf) ⟨_, _, rfl, .inl leaf⟩ (postfixed_of_primary ?_)
  intro g derived sure context room
  refine .byPlace fun state place => ?_
  rw [State.kind_of_glyphs place]
  cases word <;> cases known
  all_goals exact (Reads.advance more (by simp)).bind fun _ _ => .pure rfl

private theorem front_group (inner : ReadsAs level nest value glyphs (⟨.punctuator .rightParen, closed⟩ :: rest)) :
    ∃ front, (⟨.punctuator .leftParen, joint⟩ :: glyphs) = front ++ rest ∧
      Bracketed (· ≠ .punctuator .ellipsis) front := by
  obtain ⟨front, rfl, bracketed⟩ := inner.front
  refine ⟨⟨.punctuator .leftParen, joint⟩ :: (front ++ [⟨.punctuator .rightParen, closed⟩]), by simp, ?_⟩
  exact .group rfl rfl (bracketed.mono fun _ _ => trivial) .nil

theorem group (noCast : NoCast (⟨.punctuator .leftParen, joint⟩ :: glyphs))
    (inner : ReadsAs level nest value glyphs (⟨.punctuator .rightParen, closed⟩ :: rest))
    (more : rest ≠ []) :
    ReadsAs Precedence.primary (nest + 1) value (⟨.punctuator .leftParen, joint⟩ :: glyphs) rest := by
  refine ofPostfixed more (front_group inner) ⟨_, _, rfl, .inr ⟨rfl, noCast⟩⟩
    (postfixed_of_primary ?_)
  intro g derived sure context room
  refine .byPlace fun state known => ?_
  rw [State.kind_of_glyphs known]
  refine (Reads.advance inner.glyphs_ne_nil (by simp)).bind fun _ _ => ?_
  refine .byPlace fun state known => ?_
  have noFold : foldsAhead 0 none (state.current :: state.following) = false := by
    obtain ⟨front, rfl, bracketed⟩ := inner.front
    rw [foldsAhead_of_glyphs, show (state.current :: state.following).map Token.glyph = _ from known]
    exact Glyph.foldsAhead_group bracketed rfl
  rw [noFold]
  refine (inner.bracketed (by rw [tightness_ends rfl rfl]; decide) g derived sure context room).andThen ?_
  exact (Reads.expect more rfl).bind fun _ _ => .pure rfl

/-- An operand with one thing more behind it. -/
theorem appended {object : Expr} {middle : List Glyph} (tight : Precedence.postfixed ≤ level)
    (reads : ReadsAs level nest object glyphs middle) (more : rest ≠ [])
    (front : ∃ front, middle = front ++ rest ∧ Bracketed (· ≠ .punctuator .ellipsis) front)
    (step : ∀ g : Grammar Parser, g.IsDerived → ∀ (sure : Prop) (context : Context),
      Room sure context nest →
      (g.postfixStep object).Reads context sure middle (· = .inl value) rest) :
    ReadsAs Precedence.postfixed nest value glyphs rest := by
  obtain ⟨first, rfl, firstBracketed⟩ := reads.front
  obtain ⟨second, rfl, secondBracketed⟩ := front
  refine ofPostfixed more ⟨first ++ second, by simp, firstBracketed.append secondBracketed⟩
    (reads.operand tight) ?_
  intro g derived sure context room good last later
  refine reads.postfixed tight g derived sure context room good last ?_
  exact Reads.again (step g derived sure context room) later

theorem behind {op : UnaryOp} {object : Expr} (follows : op.followsOperand = true)
    (tight : Precedence.postfixed ≤ level)
    (reads : ReadsAs level nest object glyphs (⟨.punctuator op.mark, joint⟩ :: rest))
    (more : rest ≠ []) :
    ReadsAs Precedence.postfixed nest (.unary op object) glyphs rest := by
  refine appended tight reads more
    ⟨[⟨.punctuator op.mark, joint⟩], rfl, ?_⟩ fun g derived sure context room => ?_
  · cases op <;> cases follows <;> exact .token rfl rfl nofun nofun .nil
  · refine .byPlace fun state known => ?_
    rw [State.kind_of_glyphs known]
    cases op <;> cases follows
    · exact (Reads.advance more (by simp)).bind fun _ _ => .pure rfl
    · exact (Reads.advance more (by simp)).bind fun _ _ => .pure rfl

theorem before {op : UnaryOp} {object : Expr} (precedes : op.followsOperand = false)
    (tight : Precedence.unary ≤ level) (reads : ReadsAs level nest object glyphs rest) :
    ReadsAs Precedence.unary (nest + 1) (.unary op object) (⟨.punctuator op.mark, joint⟩ :: glyphs)
      rest := by
  have prefixed : op.mark.prefixOp? = some op := by
    cases op <;> first | rfl | cases precedes
  obtain ⟨front, same, bracketed⟩ := reads.front
  refine ofCast reads.more ⟨⟨.punctuator op.mark, joint⟩ :: front, by simp [same], ?_⟩
    ⟨_, _, rfl, by simp [TokenKind.startsExpression, prefixed]⟩ (by simp) fun loose => ?_
  · refine .token ?_ ?_ (by simp) ?_ bracketed
    all_goals cases op <;> cases precedes <;> first | rfl | simp [UnaryOp.mark]
  · intro g derived sure context room
    refine derived.symbol .cast fun inner innerDerived => ?_
    refine .nested room.fits (.byPlace fun state known => ?_)
    have other : state.isAt .leftParen = false := by
      rw [State.isAt_of_glyphs known]
      cases op <;> rfl
    rw [other]
    refine innerDerived.symbol .unary fun deepest deepestDerived => ?_
    refine .byPlace fun state known => ?_
    rw [State.kind_of_glyphs known]
    simp only [prefixed]
    refine (Reads.advance reads.glyphs_ne_nil (by simp)).bind fun _ _ => ?_
    refine (reads.cast tight loose deepest deepestDerived sure _ room.deeper).andThen (.pure rfl)

end ReadsAs

end CppSyntax
