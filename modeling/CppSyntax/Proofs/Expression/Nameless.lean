import CppSyntax.Proofs.Expression.Writing

/-!
Expressions without names. Their texts are forms of them wherever they stand, because without names
nothing in an expression can be taken for a type or for template arguments.
-/

namespace CppSyntax

open Doc

/-- An expression of literals, operators, calls, subscripts, folds and casts to builtin types. A
pointer to member that is taken by `.*` would go on with a number before it. -/
inductive Tree.Nameless : Expr → Prop where
  | integer {digits : String} (decimal : isDecimal digits = true) :
      Nameless (.literal ⟨.integer, digits⟩)
  | boolean (value : Bool) : Nameless (.literal ⟨.boolean, if value then "true" else "false"⟩)
  | nullPointer : Nameless (.literal ⟨.nullPointer, "nullptr"⟩)
  | this : Nameless .this
  | unary (op : UnaryOp) {inner : Expr} (operand : Nameless inner) : Nameless (.unary op inner)
  | binary {op : BinaryOp} {left right : Expr} (noDot : op ≠ .memberOf) (first : Nameless left)
      (second : Nameless right) : Nameless (.binary op left right)
  | assignment (op : AssignOp) {target value : Expr} (first : Nameless target)
      (second : Nameless value) : Nameless (.assignment op target value)
  | conditional {test thenValue elseValue : Expr} (first : Nameless test)
      (second : Nameless thenValue) (third : Nameless elseValue) :
      Nameless (.conditional test thenValue elseValue)
  | throwingNothing : Nameless (.throwExpression .absent)
  | throwing {inner : Expr} (operand : Nameless inner) :
      Nameless (.throwExpression (.present inner))
  | call {callee : Expr} {values : Trees .expression} (object : Nameless callee)
      (items : ∀ value ∈ values.toList, Nameless value) : Nameless (.call callee values)
  | index {object position : Expr} (first : Nameless object) (second : Nameless position) :
      Nameless (.index object position)
  | foldBefore (op : BinaryOp) {left : Expr} (operand : Nameless left) :
      Nameless (.fold op (.present left) .absent)
  | foldBehind (op : BinaryOp) {right : Expr} (operand : Nameless right) :
      Nameless (.fold op .absent (.present right))
  | foldBetween (op : BinaryOp) {left right : Expr} (first : Nameless left)
      (second : Nameless right) : Nameless (.fold op (.present left) (.present right))
  | cast (cv : Qualifiers) {words : List Keyword} {inner : Expr} (nonempty : words ≠ [])
      (builtin : ∀ word ∈ words, word.isBuiltinType = true) (operand : Nameless inner) :
      Nameless (.cast .parenthesized (.builtin cv words) inner)

/-- In every layout the text of the expression is a form of it. -/
def Tree.Written (nest : Nat) (value : Expr) : Prop :=
  ∀ layout : Layout, IsWritten value.precedence nest value (value.drawing layout).toList

namespace Tree.Written

variable {nest deep : Nat} {value : Expr}

theorem mono (written : Written nest value) (le : nest ≤ deep) : Written deep value :=
  fun layout => (written layout).mono le

/-- An expression in a place of some level is written at least as tightly as the level demands. -/
theorem operand (written : Written nest value) (level : Nat) (le : level ≤ Precedence.primary)
    (layout : Layout) : ∃ tight, level ≤ tight ∧ IsWritten tight (nest + 1) value
      ((Drawn.operand ⟨value, value.drawing⟩ level) layout).toList := by
  unfold Drawn.operand
  split
  · refine ⟨Precedence.primary, le, ?_⟩
    simpa using (written { layout with greaterFollows := false }).group
  · rename_i tight
    exact ⟨value.precedence, Nat.le_of_not_lt tight, (written layout).mono (Nat.le_succ nest)⟩

theorem items_written {values : Trees .expression} (written : ∀ value ∈ values.toList, Written nest value)
    (layout : Layout) :
    IsWritten.Items (nest + 1) values.toList (Drawn.listTexts layout values.drawn).1 := by
  cases values with
  | nil => exact .nil
  | cons head tail =>
    obtain ⟨tight, low, text⟩ := (written head (List.mem_cons_self ..)).operand
      Precedence.assignment (by decide)
      { layout with greaterFollows := (Drawn.listTexts layout tail.drawn).2 }
    exact .cons low text (items_written
      (fun value member => written value (List.mem_cons_of_mem _ member)) layout)

end Tree.Written

/-- Where an assignment may stand, the text of the expression is a form of it in every layout. -/
def Tree.WrittenAtEnd (nest : Nat) (value : Expr) : Prop :=
  ∀ layout : Layout, ∃ tight, Precedence.assignment ≤ tight ∧
    IsWritten tight nest value
      ((Drawn.operand ⟨value, value.drawing⟩ Precedence.assignment) layout).toList

namespace Tree.WrittenAtEnd

variable {nest : Nat} {test thenValue value : Expr}

theorem throwing (atEnd : WrittenAtEnd nest value) :
    Written nest (.throwExpression (.present value)) := by
  intro layout
  obtain ⟨tight, low, text⟩ := atEnd layout
  show IsWritten Precedence.assignment _ _ ("throw" ++ (" " ++ Drawn.operand _ _ layout)).toList
  simpa using text.throwing low

theorem assigning (op : AssignOp) {target : Expr} (first : Written nest target)
    (atEnd : WrittenAtEnd (nest + 1) value) : Written (nest + 1) (.assignment op target value) := by
  intro layout
  obtain ⟨leftTight, leftLow, leftText⟩ :=
    first.operand Precedence.logicalOr (by decide) layout
  obtain ⟨rightTight, rightLow, rightText⟩ := atEnd layout
  have text := leftText.assign op leftLow rightText rightLow
  show IsWritten Precedence.assignment _ _ (Render.assignment op _ _ layout).toList
  simpa [Render.assignment] using text

theorem choosing (first : Written nest test) (second : Written nest thenValue)
    (atEnd : WrittenAtEnd (nest + 1) value) :
    Written (nest + 1) (.conditional test thenValue value) := by
  intro layout
  obtain ⟨firstTight, firstLow, firstText⟩ :=
    first.operand Precedence.logicalOr (by decide) layout
  obtain ⟨_, _, secondText⟩ := second.operand Precedence.comma (by decide)
    { layout with greaterFollows := false }
  obtain ⟨thirdTight, thirdLow, thirdText⟩ := atEnd layout
  have text := firstText.choice firstLow secondText thirdText thirdLow
  show IsWritten Precedence.conditional _ _ (Render.conditional _ _ _ layout).toList
  simpa [Render.conditional, Drawn.anyExpression] using text

end Tree.WrittenAtEnd

namespace Tree.Written

variable {nest : Nat} {left right : Expr}

/-- At the end an expression may have to stand in parentheses. -/
theorem atEnd (written : Written nest left) : WrittenAtEnd (nest + 1) left :=
  fun layout => written.operand _ (by decide) layout

/-- An expression that binds tightly enough stands at the end as it is, and no deeper. -/
theorem atEndPlain (written : Written nest left) (tight : Precedence.assignment ≤ left.precedence) :
    WrittenAtEnd nest left := by
  intro layout
  refine ⟨left.precedence, tight, ?_⟩
  rw [Drawn.operand, if_neg (Nat.not_lt.mpr tight)]
  exact written layout

theorem unary (op : UnaryOp) (written : Written nest left) : Written (nest + 2) (.unary op left) := by
  intro layout
  show IsWritten (if op.followsOperand then Precedence.postfixed else Precedence.unary) _ _
    (Render.unary op ⟨left, left.drawing⟩ layout).toList
  unfold Render.unary
  by_cases follows : op.followsOperand = true
  · obtain ⟨tight, low, text⟩ := written.operand Precedence.postfixed (by decide) layout
    rw [if_pos follows, if_pos follows]
    simpa using (text.unaryBehind low follows).mono (Nat.le_succ _)
  · obtain ⟨tight, low, text⟩ := written.operand Precedence.unary (by decide) layout
    rw [if_neg follows, if_neg follows]
    exact text.unaryBefore low (by simpa using follows)

private theorem binary_of_texts {op : BinaryOp} (noDot : op ≠ .memberOf) {leftText rightText : String}
    (first : ∃ tight, op.precedence ≤ tight ∧ IsWritten tight nest left leftText.toList)
    (second : ∃ tight, op.precedence + 1 ≤ tight ∧ IsWritten tight nest right rightText.toList) :
    IsWritten op.precedence nest (.binary op left right)
      (leftText ++ Render.spacedSymbol op ++ rightText).toList := by
  obtain ⟨leftTight, leftLow, leftWritten⟩ := first
  obtain ⟨rightTight, rightLow, rightWritten⟩ := second
  by_cases comma : op = .comma
  · subst comma
    have text := leftWritten.comma rightWritten rightLow
    simpa [BinaryOp.precedence] using text
  · simpa using leftWritten.binary comma noDot leftLow rightWritten rightLow

/-- The left operand of `<` may stand in parentheses of its own. -/
theorem binary {op : BinaryOp} (noDot : op ≠ .memberOf) (first : Written nest left)
    (second : Written nest right) : Written (nest + 2) (.binary op left right) := by
  intro layout
  have bound : op.precedence + 1 ≤ Precedence.primary := by
    cases op <;> decide
  have rightWritten := second.operand _ bound layout
  let greaterAfter := layout.greaterFollows ||
    hasBareGreater (Drawn.operand ⟨right, right.drawing⟩ (op.precedence + 1) layout)
  have leftWritten := first.operand _ (Nat.le_of_succ_le bound)
    { layout with greaterFollows := greaterAfter || Render.startsWithGreater op }
  obtain ⟨leftTight, leftLow, leftText⟩ := leftWritten
  obtain ⟨rightTight, rightLow, rightText⟩ := rightWritten
  refine binary_of_texts noDot ?_ ⟨rightTight, rightLow, rightText.mono (Nat.le_succ _)⟩
  split
  · refine ⟨Precedence.primary, Nat.le_of_succ_le bound, ?_⟩
    simpa using leftText.group
  · exact ⟨leftTight, leftLow, leftText.mono (Nat.le_succ _)⟩

theorem assignment (op : AssignOp) (first : Written nest left) (second : Written nest right) :
    Written (nest + 1) (.assignment op left right) :=
  second.atEnd.assigning op first

theorem conditional {test : Expr} (first : Written nest test) (second : Written nest left)
    (third : Written nest right) : Written (nest + 1) (.conditional test left right) :=
  third.atEnd.choosing first second

theorem throwing (written : Written nest left) :
    Written (nest + 1) (.throwExpression (.present left)) :=
  written.atEnd.throwing

theorem call {values : Trees .expression} (written : Written nest left)
    (items : ∀ value ∈ values.toList, Written nest value) :
    Written (nest + 2) (.call left values) := by
  intro layout
  obtain ⟨tight, low, text⟩ := written.operand Precedence.postfixed (by decide) layout
  have call := text.call low (items_written items layout)
  rw [Trees.ofList_toList] at call
  show IsWritten Precedence.postfixed _ _ (Render.call _ _ layout).toList
  simpa [Render.call, Drawn.parenthesizedList, Drawn.list] using call

theorem index (first : Written nest left) (second : Written nest right) :
    Written (nest + 2) (.index left right) := by
  intro layout
  obtain ⟨firstTight, firstLow, firstText⟩ :=
    first.operand Precedence.postfixed (by decide) layout
  obtain ⟨_, _, secondText⟩ := second.operand Precedence.comma (by decide)
    { layout with greaterFollows := false }
  show IsWritten Precedence.postfixed _ _ (Render.index _ _ layout).toList
  simpa [Render.index, Drawn.anyExpression] using firstText.index firstLow secondText

private theorem builtin_drawing (cv : Qualifiers) {words : List Keyword} (nonempty : words ≠ [])
    (layout : Layout) :
    (Tree.builtin cv words).drawing.doc layout = IsWritten.builtinText cv words := by
  exact String.append_empty.trans (IsWritten.builtinType_drawing cv nonempty layout)

theorem cast (cv : Qualifiers) {words : List Keyword} (nonempty : words ≠ [])
    (builtin : ∀ word ∈ words, word.isBuiltinType = true) (written : Written nest left) :
    Written (nest + 2) (.cast .parenthesized (.builtin cv words) left) := by
  intro layout
  obtain ⟨tight, low, text⟩ := written.operand Precedence.unary (by decide) layout
  have type := builtin_drawing cv nonempty layout
  show IsWritten Precedence.unary _ _
    (((Tree.builtin cv words).drawing.doc.parenthesized ++ Drawn.operand _ _) layout).toList
  have cast := text.typeCast cv builtin nonempty low
  simpa [type] using cast

theorem foldBefore (op : BinaryOp) (written : Written nest left) :
    Written (nest + 2) (.fold op (.present left) .absent) := by
  intro layout
  obtain ⟨tight, low, text⟩ := written.operand Precedence.unary (by decide)
    { layout with greaterFollows := false }
  show IsWritten Precedence.primary _ _ (Render.fold op (some _) none layout).toList
  simpa [Render.fold, ifPresent, Doc.empty] using text.foldBefore op low

theorem foldBehind (op : BinaryOp) (written : Written nest right) :
    Written (nest + 2) (.fold op .absent (.present right)) := by
  intro layout
  obtain ⟨tight, low, text⟩ := written.operand Precedence.unary (by decide)
    { layout with greaterFollows := false }
  show IsWritten Precedence.primary _ _ (Render.fold op none (some _) layout).toList
  simpa [Render.fold, ifPresent, Doc.empty] using text.foldBehind op low

theorem foldBetween (op : BinaryOp) (first : Written nest left) (second : Written nest right) :
    Written (nest + 2) (.fold op (.present left) (.present right)) := by
  intro layout
  obtain ⟨_, leftLow, leftText⟩ := first.operand Precedence.unary (by decide)
    { layout with greaterFollows := false }
  obtain ⟨_, rightLow, rightText⟩ := second.operand Precedence.unary (by decide)
    { layout with greaterFollows := false }
  have text := leftText.foldBetween op leftLow rightText rightLow
  show IsWritten Precedence.primary _ _ (Render.fold op (some _) (some _) layout).toList
  simpa [Render.fold, ifPresent, Doc.empty] using text

end Tree.Written

/-- The text of an expression without names is a form of it. No part lies deeper inside operands
than twice the height. -/
theorem Tree.Nameless.written {value : Expr} (nameless : value.Nameless) :
    Written (2 * value.height) value := by
  have left {a b : Nat} : 2 * a ≤ 2 * max a b := Nat.mul_le_mul_left 2 (Nat.le_max_left a b)
  have right {a b : Nat} : 2 * b ≤ 2 * max a b := Nat.mul_le_mul_left 2 (Nat.le_max_right a b)
  induction nameless with
  | integer decimal => exact fun layout => .integer decimal
  | boolean value =>
    cases value with
    | true => exact fun layout => .word .kwTrue rfl
    | false => exact fun layout => .word .kwFalse rfl
  | nullPointer => exact fun layout => .word .kwNullptr rfl
  | this => exact fun layout => .word .kwThis rfl
  | unary op _ ih => exact ih.unary op
  | binary noDot _ _ first second => exact (first.mono left).binary noDot (second.mono right)
  | assignment op _ _ first second =>
    exact ((first.mono left).assignment op (second.mono right)).mono (Nat.le_succ _)
  | conditional _ _ _ first second third =>
    have inner := (first.mono left).conditional (second.mono (Nat.le_trans left right))
      (third.mono (Nat.le_trans right right))
    exact inner.mono (Nat.le_succ _)
  | throwingNothing => exact fun layout => .throwingNothing
  | throwing _ ih => exact ih.throwing.mono (Nat.le_succ _)
  | call _ _ object items =>
    refine (object.mono left).call fun value member => (items value member).mono ?_
    exact Nat.le_trans (Nat.mul_le_mul_left 2 (Trees.height_le_of_mem member)) right
  | index _ _ first second => exact (first.mono left).index (second.mono right)
  | foldBefore op _ ih => exact (ih.mono left).foldBefore op
  | foldBehind op _ ih => exact (ih.mono right).foldBehind op
  | foldBetween op _ _ first second => exact (first.mono left).foldBetween op (second.mono right)
  | cast cv nonempty builtin _ ih => exact ih.cast cv nonempty builtin

end CppSyntax
