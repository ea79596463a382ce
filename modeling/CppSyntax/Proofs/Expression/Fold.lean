import CppSyntax.Proofs.Expression.Cast

/-!
Folds. Parentheses with an ellipsis behind an operator are tried as a fold, and if the nesting is too
deep for that they hold nothing else.
-/

namespace CppSyntax

open CppSyntax.Parser Grammar

section

variable {op : BinaryOp} {joint : Bool} {middle : List Glyph} {context : Context} {sure : Prop}

theorem State.foldOp?_of_glyphs {state : State} (known : state.glyphs = op.glyphs joint ++ middle)
    (plain : context.inTemplateArguments = false) (apart : joint = false ∨ op ≠ .greater) :
    state.foldOp? context = some (op, (op.glyphs joint).length) := by
  by_cases comma : op = .comma
  · subst comma
    rw [State.foldOp?, State.isAt_of_glyphs known]
    rfl
  · have noComma : state.isAt .comma = false := by
      cases op <;> first | exact absurd rfl comma | (rw [State.isAt_of_glyphs known]; rfl)
    rw [State.foldOp?, noComma, State.binaryOp?_of_glyphs known plain]
    exact Glyph.binaryOp?_glyphs middle comma apart

theorem foldOperator_reads (plain : context.inTemplateArguments = false)
    (apart : joint = false ∨ op ≠ .greater) (more : middle ≠ []) :
    (foldOperator : Parser _).Reads context sure (op.glyphs joint ++ middle) (· = op) middle := by
  refine .byPlace fun state known => .byContext ?_
  rw [State.foldOp?_of_glyphs known plain apart]
  exact (Reads.advanceBy more (op.glyphs_inside joint)).bind fun _ _ => .pure rfl

end

namespace ReadsAs

variable {level other nest : Nat} {glyphs middle rest : List Glyph} {left right : Expr}
  {op : BinaryOp} {opened joint jointly dotted closed : Bool}

/-- Parentheses around what is read as a fold and as nothing else. -/
private theorem of_fold {value : Expr}
    (front : ∃ front, glyphs = front ++ ⟨.punctuator .rightParen, closed⟩ :: rest ∧
      Bracketed (fun _ => True) front)
    (noCast : NoCast (⟨.punctuator .leftParen, opened⟩ :: glyphs)) (more : rest ≠ [])
    (folds : Glyph.foldsAhead 0 none glyphs = true)
    (reads : RuleReads (fun g => g.fold) nest glyphs (· = value)
      (⟨.punctuator .rightParen, closed⟩ :: rest))
    (refuses : RuleRefuses (fun g => g.expression) glyphs) :
    ReadsAs Precedence.primary nest value (⟨.punctuator .leftParen, opened⟩ :: glyphs) rest := by
  obtain ⟨front, rfl, bracketed⟩ := front
  refine ofPostfixed more ?_ ⟨_, _, rfl, .inr ⟨rfl, noCast⟩⟩ (postfixed_of_primary ?_)
  · exact ⟨⟨.punctuator .leftParen, opened⟩ :: (front ++ ⟨.punctuator .rightParen, closed⟩ :: []),
      by simp, .group rfl rfl bracketed .nil⟩
  · intro g derived sure context room
    refine .byPlace fun state known => ?_
    rw [State.kind_of_glyphs known]
    refine (Reads.advance (by simp) (by simp)).bind fun _ _ => .byPlace fun state known => ?_
    have folded : foldsAhead 0 none (state.current :: state.following) = true := by
      rw [foldsAhead_of_glyphs, show (state.current :: state.following).map Token.glyph = _ from known]
      exact folds
    rw [folded]
    refine .attempt (.angleCloses (reads g derived sure _ room.bracketed)) (fun value same => ?_)
      fun never => ?_
    · subst same
      exact Reads.andThen (.pure rfl) ((Reads.expect more rfl).bind fun _ _ => .pure rfl)
    · exact .of_refuses (Refuses.bind (refuses.bracketed g derived _ room.plain)) never

/-- An ellipsis with the operator and the operand behind it. -/
theorem foldBehind (tight : Precedence.unary ≤ level) (apart : joint = false ∨ op ≠ .greater)
    (more : rest ≠ [])
    (reads : ReadsAs level nest right middle (⟨.punctuator .rightParen, closed⟩ :: rest)) :
    ReadsAs Precedence.primary (nest + 1) (.fold op .absent (.present right))
      (⟨.punctuator .leftParen, opened⟩ :: ⟨.punctuator .ellipsis, dotted⟩ ::
        (op.glyphs joint ++ middle)) rest := by
  have front : ∃ front, (⟨.punctuator .ellipsis, dotted⟩ :: (op.glyphs joint ++ middle) : List Glyph) =
      front ++ ⟨.punctuator .rightParen, closed⟩ :: rest ∧ Bracketed (fun _ => True) front := by
    obtain ⟨front, rfl, bracketed⟩ := reads.front
    refine ⟨⟨.punctuator .ellipsis, dotted⟩ :: (op.glyphs joint ++ front), by simp, ?_⟩
    have operands := (op.bracketed_glyphs joint).append bracketed
    exact .token rfl rfl (by simp) trivial (operands.mono fun _ _ => trivial)
  refine of_fold front (.of_start rfl) more rfl ?_ (RuleRefuses.ellipsis.expression)
  intro g derived sure context room
  have loose : tightness (⟨.punctuator .rightParen, closed⟩ :: rest) < Precedence.postfixed := by
    rw [tightness_ends rfl rfl]
    decide
  refine (Reads.accept (by simp [reads.glyphs_ne_nil]) rfl).andThen ?_
  refine (foldOperator_reads room.plain apart reads.glyphs_ne_nil).andThen ?_
  exact (reads.cast tight loose g derived sure context room).andThen (.pure rfl)

theorem foldRight_nothing : RuleReads (fun g => g.foldRight op) nest
    (⟨.punctuator .rightParen, closed⟩ :: rest) (· = none)
    (⟨.punctuator .rightParen, closed⟩ :: rest) := by
  intro g derived sure context room
  refine .byPlace fun state known => ?_
  rw [State.isAt_of_glyphs known]
  exact .pure rfl

theorem foldRight_reads (tight : Precedence.unary ≤ level) (apart : joint = false ∨ op ≠ .greater)
    (reads : ReadsAs level nest right middle (⟨.punctuator .rightParen, closed⟩ :: rest)) :
    RuleReads (fun g => g.foldRight op) (nest + 1) (op.glyphs joint ++ middle) (· = some right)
      (⟨.punctuator .rightParen, closed⟩ :: rest) := by
  intro g derived sure context room
  have loose : tightness (⟨.punctuator .rightParen, closed⟩ :: rest) < Precedence.postfixed := by
    rw [tightness_ends rfl rfl]
    decide
  refine .byPlace fun state known => ?_
  have open' : state.isAt .rightParen = false := by
    cases op <;> (rw [State.isAt_of_glyphs known]; rfl)
  rw [open']
  refine .byContext ?_
  rw [State.foldOp?_of_glyphs known room.plain apart]
  dsimp only
  rw [beq_self_eq_true]
  refine (Reads.advanceBy reads.glyphs_ne_nil (op.glyphs_inside joint)).bind fun _ _ => ?_
  exact (reads.cast tight loose g derived sure context room).andThen (.pure rfl)

/-- An operand with an operator behind it that an ellipsis follows is no expression. -/
private theorem refuses_operator (tight : Precedence.unary ≤ level)
    (apart : joint = false ∨ op ≠ .greater)
    (reads : ReadsAs level nest left glyphs
      (op.glyphs joint ++ ⟨.punctuator .ellipsis, dotted⟩ :: middle)) :
    RuleRefuses (fun g => g.expression) glyphs := by
  have follows := tightness_glyphs (⟨.punctuator .ellipsis, dotted⟩ :: middle) apart
  have ahead : RuleRefuses (fun g => g.assignment) (⟨.punctuator .ellipsis, dotted⟩ :: middle) :=
    .ellipsis
  by_cases comma : op = .comma
  · subst comma
    intro g derived context plain
    refine reads.expression (by rw [follows]; decide) g derived False context (.unsure plain) _ _
      fun fuel => ?_
    cases fuel with
    | zero => exact fun _ _ => trivial
    | succ fuel =>
      refine Refuses.bind ((Reads.accept (List.cons_ne_nil _ _) rfl).andThen ?_)
      exact Refuses.bind (ahead g derived context plain)
  · have noThrow := reads.noThrow (Nat.le_trans (by decide) tight)
    obtain ⟨first, tail, rfl, _⟩ := reads.starts
    have other : first.kind ≠ .keyword .kwThrow := fun kind => noThrow (by rw [← kind]; rfl)
    refine RuleRefuses.expression (RuleRefuses.assignment other fun g derived context plain => ?_)
    refine derived.symbol (.binary _) fun inner innerDerived => ?_
    have bounds : Precedence.logicalOr ≤ op.precedence ∧ op.precedence < Precedence.unary := by
      cases op <;> first | exact absurd rfl comma | decide
    refine reads.binary Precedence.logicalOr (Nat.le_refl _) (Nat.le_trans (by decide) tight)
      (by omega) (by rw [follows]; exact Nat.lt_trans bounds.2 (by decide)) inner innerDerived False
      context (.unsure plain) _ _ fun fuel => ?_
    cases fuel with
    | zero => exact fun _ _ => trivial
    | succ fuel =>
      refine Refuses.bind (.byPlace fun state known => .byContext ?_)
      rw [State.binaryOp?_of_glyphs known plain, Glyph.binaryOp?_glyphs _ comma apart]
      dsimp only
      rw [if_neg (Nat.not_lt.mpr bounds.1)]
      refine (Reads.advanceBy (List.cons_ne_nil _ _) (op.glyphs_inside joint)).bind fun _ _ => ?_
      have unary : RuleRefuses (fun g => g.unary) (⟨.punctuator .ellipsis, dotted⟩ :: middle) :=
        .unary_ellipsis
      exact Refuses.bind ((unary.cast (by simp)).binary inner innerDerived context plain)

/-- An operand with the operator and an ellipsis behind it, and maybe another operand. -/
theorem foldBefore (other? : Option Expr) (tight : Precedence.unary ≤ level)
    (apart : joint = false ∨ op ≠ .greater) (more : rest ≠ [])
    (noCast : NoCast (⟨.punctuator .leftParen, opened⟩ :: glyphs))
    (reads : ReadsAs level nest left glyphs
      (op.glyphs joint ++ ⟨.punctuator .ellipsis, dotted⟩ :: middle))
    (later : RuleReads (fun g => g.foldRight op) (nest + 1) middle (· = other?)
      (⟨.punctuator .rightParen, closed⟩ :: rest))
    (front : ∃ front, middle = front ++ ⟨.punctuator .rightParen, closed⟩ :: rest ∧
      Bracketed (fun _ => True) front) :
    ReadsAs Precedence.primary (nest + 1) (.fold op (.present left) (.ofOption other?))
      (⟨.punctuator .leftParen, opened⟩ :: glyphs) rest := by
  obtain ⟨back, rfl, backBracketed⟩ := front
  have folds : Glyph.foldsAhead 0 none glyphs = true := by
    obtain ⟨front, rfl, bracketed⟩ := reads.front
    exact Glyph.foldsAhead_fold bracketed rfl
  have whole : ∃ front, glyphs = front ++ ⟨.punctuator .rightParen, closed⟩ :: rest ∧
      Bracketed (fun _ => True) front := by
    obtain ⟨front, rfl, bracketed⟩ := reads.front
    refine ⟨front ++ (op.glyphs joint ++ ⟨.punctuator .ellipsis, dotted⟩ :: back), by simp, ?_⟩
    refine (bracketed.mono fun _ _ => trivial).append (.append ?_ ?_)
    · exact (op.bracketed_glyphs joint).mono fun _ _ => trivial
    · exact .token rfl rfl (by simp) trivial backBracketed
  refine of_fold whole noCast more folds ?_ (refuses_operator tight apart reads)
  intro g derived sure context room
  have loose : tightness (op.glyphs joint ++ ⟨.punctuator .ellipsis, dotted⟩ ::
      (back ++ ⟨.punctuator .rightParen, closed⟩ :: rest)) < Precedence.postfixed := by
    rw [tightness_glyphs _ apart]
    cases op <;> decide
  obtain ⟨first, tail, rfl, _⟩ := reads.starts
  have noEllipsis : first.kind ≠ .punctuator .ellipsis := reads.starts.ne rfl
  refine (Reads.missing noEllipsis).andThen ?_
  refine (reads.cast tight loose g derived sure context room).andThen ?_
  refine (foldOperator_reads room.plain apart (List.cons_ne_nil _ _)).andThen ?_
  refine (Reads.expect (by simp) rfl).bind fun _ _ => ?_
  exact (later g derived sure context room).andThen (.pure rfl)

end ReadsAs

end CppSyntax
