import CppSyntax.Proofs.Expression.Forms

/-!
Forms with operators between expressions: the binary operators, the comma, assignments, conditionals
and `throw`. An operator is read by the loop of its level, which the left operand leads into and the
right operand leaves.
-/

namespace CppSyntax

open CppSyntax.Parser Grammar

theorem BinaryOp.glyphs_inside (op : BinaryOp) (joint : Bool) :
    ∀ glyph ∈ op.glyphs joint, glyph.kind ≠ .endOfFile := by
  cases op <;> simp [BinaryOp.glyphs]

theorem AssignOp.glyphs_inside (op : AssignOp) (joint : Bool) :
    ∀ glyph ∈ op.glyphs joint, glyph.kind ≠ .endOfFile := by
  cases op <;> simp [AssignOp.glyphs]

theorem BinaryOp.bracketed_glyphs (op : BinaryOp) (joint : Bool) :
    Bracketed (· ≠ .punctuator .ellipsis) (op.glyphs joint) := by
  cases op with
  | shiftRight => exact .token rfl rfl (by simp) (by simp) (.token rfl rfl (by simp) (by simp) .nil)
  | _ => exact .token rfl rfl (by simp) (by simp [BinaryOp.mark]) .nil

theorem AssignOp.bracketed_glyphs (op : AssignOp) (joint : Bool) :
    Bracketed (· ≠ .punctuator .ellipsis) (op.glyphs joint) := by
  cases op with
  | shiftRight => exact .token rfl rfl (by simp) (by simp) (.token rfl rfl (by simp) (by simp) .nil)
  | _ => exact .token rfl rfl (by simp) (by simp [AssignOp.mark]) .nil

namespace ReadsAs

variable {level other nest deep : Nat} {glyphs middle rest : List Glyph} {left right : Expr}

/-- The front of two forms with tokens between them. -/
private theorem front_between (between : List Glyph)
    (first : ReadsAs level nest left glyphs (between ++ middle))
    (second : ReadsAs other deep right middle rest)
    (bracketed : Bracketed (· ≠ .punctuator .ellipsis) between) :
    ∃ front, glyphs = front ++ rest ∧ Bracketed (· ≠ .punctuator .ellipsis) front := by
  obtain ⟨front, rfl, frontBracketed⟩ := first.front
  obtain ⟨back, rfl, backBracketed⟩ := second.front
  exact ⟨front ++ (between ++ back), by simp,
    frontBracketed.append (bracketed.append backBracketed)⟩

theorem binaryStep_reads {op : BinaryOp} {joint : Bool} {lowest : Nat}
    (second : ReadsAs other nest right middle rest) (low : lowest ≤ op.precedence)
    (tight : op.precedence + 1 ≤ other) (noComma : op ≠ .comma)
    (apart : joint = false ∨ op ≠ .greater) (loose : tightness rest ≤ op.precedence)
    (noPostfix : tightness rest < Precedence.postfixed) {g : Grammar Parser} (derived : g.IsDerived)
    {sure : Prop} {context : Context} (room : Room sure context (nest + 1)) :
    (g.binaryStep lowest left).Reads context sure (op.glyphs joint ++ middle)
      (· = .inl (.binary op left right)) rest := by
  have tightly : Precedence.logicalOr ≤ op.precedence + 1 := by
    cases op <;> first | exact absurd rfl noComma | decide
  refine .byPlace fun state known => .byContext ?_
  rw [State.binaryOp?_of_glyphs known room.plain, Glyph.binaryOp?_glyphs middle noComma apart]
  dsimp only
  rw [if_neg (Nat.not_lt.mpr low)]
  refine (Reads.advanceBy second.glyphs_ne_nil (op.glyphs_inside joint)).bind fun _ _ => ?_
  have exact' := second.binaryExact tightly tight (Nat.lt_succ_of_le loose) noPostfix
  exact (exact' g derived sure context room).andThen (.pure rfl)

/-- An operator that groups to the left, with its operands. -/
theorem binary_of_operands {op : BinaryOp} {joint : Bool} (noComma : op ≠ .comma)
    (apart : joint = false ∨ op ≠ .greater)
    (first : ReadsAs level nest left glyphs (op.glyphs joint ++ middle))
    (second : ReadsAs other nest right middle rest) (leftTight : op.precedence ≤ level)
    (rightTight : op.precedence + 1 ≤ other) :
    ReadsAs op.precedence nest (.binary op left right) glyphs rest := by
  have tightly : Precedence.logicalOr ≤ op.precedence := by
    cases op <;> first | exact absurd rfl noComma | decide
  have loosely : op.precedence < Precedence.unary := by
    cases op <;> decide
  refine ofBinary second.more (front_between _ first second (op.bracketed_glyphs joint)) first.starts
    (first.noThrow ?_) tightly loosely fun lowest low tight loose noPostfix => ?_
  · exact Nat.le_trans (Nat.le_trans (by decide) tightly) leftTight
  · intro g derived sure context room good last later
    have follows : tightness (op.glyphs joint ++ middle) = op.precedence :=
      tightness_glyphs middle apart
    refine first.binary lowest low (Nat.le_trans tight leftTight) (by omega) ?_ g derived sure
      context room good last ?_
    · rw [follows]
      exact Nat.lt_trans loosely (by decide)
    · exact Reads.again (second.binaryStep_reads tight rightTight noComma apart loose noPostfix
        derived room) later

theorem comma {joint : Bool}
    (first : ReadsAs level nest left glyphs (⟨.punctuator .comma, joint⟩ :: middle))
    (second : ReadsAs other nest right middle rest) (tight : Precedence.assignment ≤ other) :
    ReadsAs Precedence.comma nest (.binary .comma left right) glyphs rest where
  more := second.more
  front := front_between (BinaryOp.comma.glyphs joint) first second
    (BinaryOp.bracketed_glyphs ..)
  starts := first.starts
  noThrow low := absurd low (by decide)
  operand low := absurd low (by decide)
  postfixed low := absurd low (by decide)
  cast low := absurd low (by decide)
  binary lowest low high := absurd (Nat.le_trans low high) (by decide)
  assignment low := absurd low (by decide)
  expression loose := by
    intro g derived sure context room good last later
    have follows : tightness (⟨.punctuator .comma, joint⟩ :: middle) < Precedence.assignment := by
      rw [tightness_comma rfl]
      decide
    refine first.expression follows g derived sure context room good last ?_
    refine Reads.again ?_ later
    refine (Reads.accept second.glyphs_ne_nil rfl).andThen ?_
    exact (second.assignment tight loose g derived sure context room).andThen (.pure rfl)

theorem clause_reads (reads : ReadsAs level nest left glyphs rest)
    (tight : Precedence.assignment ≤ level) (loose : tightness rest < Precedence.assignment) :
    RuleReads (fun g => g.clause) (nest + 1) glyphs (· = left) rest := by
  intro g derived sure context room
  refine derived.symbol .clause fun inner innerDerived => ?_
  obtain ⟨first, tail, rfl, _⟩ := reads.starts
  refine .byPlace fun state known => ?_
  have noBrace : state.isAt .leftBrace = false := by
    have other : first.kind ≠ .punctuator .leftBrace := reads.starts.ne rfl
    simpa [State.isAt_of_glyphs known] using other
  rw [noBrace]
  exact reads.assignment tight loose inner innerDerived sure context room

theorem assign {op : AssignOp} {joint : Bool}
    (first : ReadsAs level nest left glyphs (op.glyphs joint ++ middle))
    (second : ReadsAs other nest right middle rest) (leftTight : Precedence.logicalOr ≤ level)
    (rightTight : Precedence.assignment ≤ other) :
    ReadsAs Precedence.assignment nest (.assignment op left right) glyphs rest := by
  refine ofAssignment second.more (front_between _ first second (op.bracketed_glyphs joint))
    first.starts (fun low => absurd low (by decide)) (by decide) fun loose => ?_
  intro g derived sure context room
  refine derived.symbol .assignment fun inner innerDerived => ?_
  have noThrow := first.noThrow (Nat.le_trans (by decide) leftTight)
  obtain ⟨head, tail, rfl, _⟩ := first.starts
  have other : head.kind ≠ .keyword .kwThrow := fun kind => noThrow (by rw [← kind]; rfl)
  refine (Reads.missingWord other).andThen ?_
  have follows : tightness (op.glyphs joint ++ middle) < Precedence.conditional := by
    rw [tightness_assign]
    decide
  refine (first.conditional leftTight follows inner innerDerived sure context room).andThen ?_
  refine .byPlace fun state known => .byContext ?_
  rw [State.assignOp?_of_glyphs known room.plain, Glyph.assignOp?_glyphs]
  refine (Reads.advanceBy second.glyphs_ne_nil (op.glyphs_inside joint)).bind fun _ _ => ?_
  exact (second.clause_reads rightTight loose inner innerDerived sure context room).andThen (.pure rfl)

/-- A conditional. Its middle part stands between brackets, as it were. -/
theorem choice {joint closed : Bool} {test thenValue elseValue : Expr} {third : Nat}
    {between : List Glyph}
    (first : ReadsAs level nest test glyphs (⟨.punctuator .question, joint⟩ :: middle))
    (second : ReadsAs other nest thenValue middle (⟨.punctuator .colon, closed⟩ :: between))
    (final : ReadsAs third nest elseValue between rest) (firstTight : Precedence.logicalOr ≤ level)
    (finalTight : Precedence.assignment ≤ third) :
    ReadsAs Precedence.conditional nest (.conditional test thenValue elseValue) glyphs rest := by
  have noThrow := first.noThrow (Nat.le_trans (by decide) firstTight)
  refine ofAssignment final.more ?_ first.starts (fun _ => noThrow) (by decide) fun loose => ?_
  · obtain ⟨front, rfl, frontBracketed⟩ := first.front
    obtain ⟨inner, rfl, innerBracketed⟩ := second.front
    obtain ⟨back, rfl, backBracketed⟩ := final.front
    refine ⟨front ++ ⟨.punctuator .question, joint⟩ :: (inner ++ ⟨.punctuator .colon, closed⟩ :: back),
      by simp, frontBracketed.append ?_⟩
    refine .token rfl rfl (by simp) (by simp) (innerBracketed.append ?_)
    exact .token rfl rfl (by simp) (by simp) backBracketed
  · refine assignment_of_conditional noThrow first.glyphs_ne_nil final.more loose ?_
    intro g derived sure context room
    have follows : tightness (⟨.punctuator .question, joint⟩ :: middle) < Precedence.logicalOr := by
      rw [tightness_question rfl]
      decide
    refine (first.binaryExact (Nat.le_refl _) firstTight follows (Nat.lt_trans follows (by decide))
      g derived sure context room).andThen ?_
    refine (Reads.accept second.glyphs_ne_nil rfl).andThen ?_
    have closes : tightness (⟨.punctuator .colon, closed⟩ :: between) < Precedence.comma := by
      rw [tightness_ends rfl rfl]
      decide
    refine (second.bracketed closes g derived sure context room).andThen ?_
    refine (Reads.expect final.glyphs_ne_nil rfl).bind fun _ _ => ?_
    exact (final.assignment finalTight loose g derived sure context room).andThen (.pure rfl)

theorem throwing {joint : Bool} (reads : ReadsAs level nest left glyphs rest)
    (tight : Precedence.assignment ≤ level) :
    ReadsAs Precedence.assignment nest (.throwExpression (.present left))
      (⟨.keyword .kwThrow, joint⟩ :: glyphs) rest := by
  refine ofAssignment reads.more ?_ ⟨_, _, rfl, rfl⟩ (fun low => absurd low (by decide)) (by decide)
    fun loose => ?_
  · obtain ⟨front, rfl, bracketed⟩ := reads.front
    exact ⟨⟨.keyword .kwThrow, joint⟩ :: front, rfl, .token rfl rfl (by simp) (by simp) bracketed⟩
  · intro g derived sure context room
    refine derived.symbol .assignment fun inner innerDerived => ?_
    refine (Reads.acceptWord reads.glyphs_ne_nil rfl).andThen ?_
    refine .byPlace fun state known => ?_
    have throwsSome : throwsNothing state.kind = false := by
      obtain ⟨first, tail, rfl, starts⟩ := reads.starts
      rw [State.kind_of_glyphs known]
      cases kind : first.kind with
      | punctuator mark =>
        rw [kind] at starts
        cases mark <;> first | rfl | cases starts
      | _ => rfl
    rw [throwsSome]
    exact (reads.assignment tight loose inner innerDerived sure context room).andThen (.pure rfl)

theorem throwingNothing {joint : Bool} (more : rest ≠ [])
    (nothing : tightness rest < Precedence.assignment →
      ∃ first tail, rest = first :: tail ∧ throwsNothing first.kind = true) :
    ReadsAs Precedence.assignment nest (.throwExpression .absent)
      (⟨.keyword .kwThrow, joint⟩ :: rest) rest := by
  refine ofAssignment more ⟨[⟨.keyword .kwThrow, joint⟩], rfl, ?_⟩ ⟨_, _, rfl, rfl⟩
    (fun low => absurd low (by decide)) (by decide) fun loose => ?_
  · exact .token rfl rfl (by simp) (by simp) .nil
  · intro g derived sure context room
    obtain ⟨first, tail, rfl, stops⟩ := nothing loose
    refine derived.symbol .assignment fun inner innerDerived => ?_
    refine (Reads.acceptWord more rfl).andThen ?_
    refine .byPlace fun state known => ?_
    rw [State.kind_of_glyphs known, stops]
    exact .pure rfl

end ReadsAs

end CppSyntax
