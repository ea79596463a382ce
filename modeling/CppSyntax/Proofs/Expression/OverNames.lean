import CppSyntax.Proofs.Expression.LaidOut

/-!
Expressions over names. In every layout their texts are forms of them, because parentheses keep each
`<` behind a name from a `>` that could close template arguments with it.
-/

namespace CppSyntax

open Doc

/-- In no layout does the expression hold a bare `>` where it stands as an operand of the level. -/
def Tree.WritesNoGreater (level : Nat) (value : Expr) : Prop :=
  ∀ layout, hasBareGreater (Drawn.operand ⟨value, value.drawing⟩ level layout) = false

theorem Tree.writesNoGreater_name {level : Nat} {ident : String} (le : level ≤ Precedence.primary)
    (plain : isPlainIdentifier ident = true) :
    WritesNoGreater level (.nameExpression (.simpleName ident)) := by
  intro layout
  have noMark : ∀ (previous : Option Char) (text : List Char), (∀ c ∈ text, isWordChar c = true) →
      holdsBareGreater previous text = false := by
    intro previous text isWord
    induction text generalizing previous with
    | nil => rfl
    | cons c text ih =>
      obtain ⟨first, others⟩ := List.forall_mem_cons.mp isWord
      have other : c ≠ '>' := by
        rintro rfl
        exact absurd first (by decide)
      simp [holdsBareGreater, other, ih (some c) others]
  unfold Drawn.operand
  split
  · rename_i loose
    exact absurd le (Nat.not_le.mpr loose)
  · show hasBareGreater ((Tree.simpleName ident).drawing layout) = false
    rw [Tree.drawing_simpleName]
    exact noMark none ident.toList (isWordChar_of_plain plain)

/-- An expression of simple names, `this` and literals that are words. The operators between operands
are all those that cannot stand in a declarator. The branches of a conditional hold no bare `>`, since
its condition is written as if none followed. -/
inductive Tree.OverNames : Expr → Prop where
  | name {ident : String} (plain : isPlainIdentifier ident = true) :
      OverNames (.nameExpression (.simpleName ident))
  | word {word : Keyword} {value : Expr} (known : ReadsAs.wordExpression? word = some value) :
      OverNames value
  | unary (op : UnaryOp) {inner : Expr} (operand : OverNames inner) : OverNames (.unary op inner)
  | binary {op : BinaryOp} {left right : Expr} (noPointer : op.marksPointer = false)
      (first : OverNames left) (second : OverNames right) : OverNames (.binary op left right)
  | assignment (op : AssignOp) {target value : Expr} (first : OverNames target)
      (second : OverNames value) : OverNames (.assignment op target value)
  | conditional {test thenValue elseValue : Expr} (first : OverNames test)
      (second : OverNames thenValue) (third : OverNames elseValue)
      (tight : Precedence.logicalOr ≤ thenValue.precedence)
      (thenBare : thenValue.WritesNoGreater Precedence.comma)
      (elseBare : elseValue.WritesNoGreater Precedence.assignment) :
      OverNames (.conditional test thenValue elseValue)
  | call {callee : Expr} {values : Trees .expression} (object : OverNames callee)
      (items : ∀ value ∈ values.toList, OverNames value) : OverNames (.call callee values)
  | index {object position : Expr} (first : OverNames object) (second : OverNames position) :
      OverNames (.index object position)
  | member (arrow : Bool) {object : Expr} {ident : String} (first : OverNames object)
      (plain : isPlainIdentifier ident = true) :
      OverNames (.member object arrow (.simpleName ident))

/-- In every layout the text of the expression is a form of it. -/
def Tree.LaidOut (nest : Nat) (value : Expr) : Prop :=
  ∀ layout : Layout,
    IsLaidOut layout.greaterFollows value.precedence nest value (value.drawing layout).toList

namespace Tree.LaidOut

variable {nest deep : Nat} {value left right : Expr}

theorem mono (laid : LaidOut nest value) (le : nest ≤ deep) : LaidOut deep value :=
  fun layout => (laid layout).mono le

/-- An expression in a place of some level is written at least as tightly as the level demands. -/
theorem operand (laid : LaidOut nest value) (level : Nat) (le : level ≤ Precedence.postfixed)
    (layout : Layout) : ∃ tight, level ≤ tight ∧ IsLaidOut layout.greaterFollows tight (nest + 1)
      value ((Drawn.operand ⟨value, value.drawing⟩ level) layout).toList := by
  unfold Drawn.operand
  split
  · rename_i loose
    refine ⟨Precedence.primary, Nat.le_succ_of_le le, ?_⟩
    have inner := laid { layout with greaterFollows := false }
    simpa using inner.group (Nat.lt_of_lt_of_le loose le)
  · rename_i tight
    exact ⟨value.precedence, Nat.le_of_not_lt tight, (laid layout).mono (Nat.le_succ nest)⟩

theorem items {values : Trees .expression} (laid : ∀ value ∈ values.toList, LaidOut nest value)
    (layout : Layout) :
    IsLaidOut.Items (nest + 1) values.toList (Drawn.listTexts layout values.drawn).1
      (Drawn.listTexts layout values.drawn).2 := by
  cases values with
  | nil => exact .nil
  | cons head tail =>
    obtain ⟨tight, low, text⟩ := (laid head (List.mem_cons_self ..)).operand Precedence.assignment
      (by decide) { layout with greaterFollows := (Drawn.listTexts layout tail.drawn).2 }
    exact .cons low text (items (fun value member => laid value (List.mem_cons_of_mem _ member)) layout)

theorem unary (op : UnaryOp) (laid : LaidOut nest value) : LaidOut (nest + 2) (.unary op value) := by
  intro layout
  show IsLaidOut _ (if op.followsOperand then Precedence.postfixed else Precedence.unary) _ _
    (Render.unary op ⟨value, value.drawing⟩ layout).toList
  unfold Render.unary
  by_cases follows : op.followsOperand = true
  · obtain ⟨tight, low, text⟩ := laid.operand Precedence.postfixed (by decide) layout
    rw [if_pos follows, if_pos follows]
    simpa using (text.unaryBehind low follows).mono (Nat.le_succ _)
  · obtain ⟨tight, low, text⟩ := laid.operand Precedence.unary (by decide) layout
    rw [if_neg follows, if_neg follows]
    exact text.unaryBefore low (by simpa using follows)

theorem binary {op : BinaryOp} (noPointer : op.marksPointer = false) (first : LaidOut nest left)
    (second : LaidOut nest right) : LaidOut (nest + 2) (.binary op left right) := by
  intro layout
  have bound : op.precedence + 1 ≤ Precedence.postfixed := by
    cases op <;> decide
  obtain ⟨rightTight, rightLow, rightText⟩ := second.operand _ bound layout
  let greaterAfter := layout.greaterFollows ||
    hasBareGreater (Drawn.operand ⟨right, right.drawing⟩ (op.precedence + 1) layout)
  obtain ⟨leftTight, leftLow, leftText⟩ := first.operand _ (Nat.le_of_succ_le bound)
    { layout with greaterFollows := greaterAfter || Render.startsWithGreater op }
  exact leftText.binary noPointer leftLow rightText rightLow

theorem assignment (op : AssignOp) (first : LaidOut nest left) (second : LaidOut nest right) :
    LaidOut (nest + 1) (.assignment op left right) := by
  intro layout
  obtain ⟨leftTight, leftLow, leftText⟩ := first.operand Precedence.logicalOr (by decide) layout
  obtain ⟨rightTight, rightLow, rightText⟩ := second.operand Precedence.assignment (by decide) layout
  have text := leftText.assign op leftLow rightText rightLow
  show IsLaidOut _ Precedence.assignment _ _ (Render.assignment op _ _ layout).toList
  simpa [Render.assignment] using text

theorem conditional {test thenValue elseValue : Expr} (first : LaidOut nest test)
    (second : LaidOut nest thenValue) (third : LaidOut nest elseValue)
    (tight : Precedence.logicalOr ≤ thenValue.precedence)
    (thenBare : thenValue.WritesNoGreater Precedence.comma)
    (elseBare : elseValue.WritesNoGreater Precedence.assignment) :
    LaidOut (nest + 1) (.conditional test thenValue elseValue) := by
  intro layout
  obtain ⟨testTight, testLow, testText⟩ := first.operand Precedence.logicalOr (by decide) layout
  obtain ⟨elseTight, elseLow, elseText⟩ := third.operand Precedence.assignment (by decide) layout
  have plain (inner : Layout) : Drawn.operand ⟨thenValue, thenValue.drawing⟩ Precedence.comma inner =
      thenValue.drawing inner := by
    have bound : Precedence.comma ≤ thenValue.precedence := Nat.le_trans (by decide) tight
    rw [Drawn.operand, if_neg (Nat.not_lt.mpr bound)]
  have thenText := (second { layout with greaterFollows := false }).mono (Nat.le_succ nest)
  have noGreater := thenBare { layout with greaterFollows := false }
  rw [plain] at noGreater
  have whole := testText.choice testLow thenText tight elseText elseLow noGreater (elseBare layout)
  show IsLaidOut _ Precedence.conditional _ _ (Render.conditional _ _ _ layout).toList
  simpa [Render.conditional, Drawn.anyExpression, plain] using whole

theorem call {values : Trees .expression} (laid : LaidOut nest value)
    (each : ∀ value ∈ values.toList, LaidOut nest value) :
    LaidOut (nest + 2) (.call value values) := by
  intro layout
  obtain ⟨tight, low, text⟩ := laid.operand Precedence.postfixed (by decide) layout
  have call := text.call low (items each layout)
  rw [Trees.ofList_toList] at call
  show IsLaidOut _ Precedence.postfixed _ _ (Render.call _ _ layout).toList
  simpa [Render.call, Drawn.parenthesizedList, Drawn.list] using call

theorem index (first : LaidOut nest left) (second : LaidOut nest right) :
    LaidOut (nest + 2) (.index left right) := by
  intro layout
  obtain ⟨leftTight, leftLow, leftText⟩ := first.operand Precedence.postfixed (by decide) layout
  obtain ⟨_, _, rightText⟩ := second.operand Precedence.comma (by decide)
    { layout with greaterFollows := false }
  show IsLaidOut _ Precedence.postfixed _ _ (Render.index _ _ layout).toList
  simpa [Render.index, Drawn.anyExpression] using leftText.index leftLow rightText

theorem member (arrow : Bool) {ident : String} (plain : isPlainIdentifier ident = true)
    (laid : LaidOut nest value) : LaidOut (nest + 1) (.member value arrow (.simpleName ident)) := by
  intro layout
  obtain ⟨tight, low, text⟩ := laid.operand Precedence.postfixed (by decide) layout
  have whole := text.member arrow plain low
  show IsLaidOut _ Precedence.postfixed _ _
    (Render.member ⟨value, value.drawing⟩ arrow (Tree.simpleName ident).drawing layout).toList
  cases arrow <;>
    simpa [Render.member, Tree.drawing_simpleName, memberMark, Punctuator.spelling] using whole

end Tree.LaidOut

/-- The text of an expression over names is a form of it. No part lies deeper inside operands than
twice the height. -/
theorem Tree.OverNames.laidOut {value : Expr} (names : value.OverNames) :
    LaidOut (2 * value.height) value := by
  have left {a b : Nat} : 2 * a ≤ 2 * max a b := Nat.mul_le_mul_left 2 (Nat.le_max_left a b)
  have right {a b : Nat} : 2 * b ≤ 2 * max a b := Nat.mul_le_mul_left 2 (Nat.le_max_right a b)
  induction names with
  | name plain =>
    intro layout
    show IsLaidOut _ Precedence.primary _ _ ((Tree.simpleName _).drawing layout).toList
    rw [Tree.drawing_simpleName]
    exact .name plain
  | @word word value known =>
    intro layout
    have text : value.drawing layout = word.spelling := by
      cases word <;> cases known <;> rfl
    rw [text]
    exact (IsLaidOut.word word known).mono (Nat.zero_le _)
  | unary op _ ih => exact ih.unary op
  | binary noPointer _ _ first second => exact (first.mono left).binary noPointer (second.mono right)
  | assignment op _ _ first second =>
    exact ((first.mono left).assignment op (second.mono right)).mono (Nat.le_succ _)
  | conditional _ _ _ tight thenBare elseBare first second third =>
    have middle {a b c : Nat} : 2 * b ≤ 2 * max a (max b c) := Nat.mul_le_mul_left 2 (by omega)
    have last {a b c : Nat} : 2 * c ≤ 2 * max a (max b c) := Nat.mul_le_mul_left 2 (by omega)
    exact ((first.mono left).conditional (second.mono middle) (third.mono last) tight thenBare
      elseBare).mono (Nat.le_succ _)
  | call _ _ object items =>
    refine (object.mono left).call fun value member => (items value member).mono ?_
    exact Nat.le_trans (Nat.mul_le_mul_left 2 (Trees.height_le_of_mem member)) right
  | index _ _ first second => exact (first.mono left).index (second.mono right)
  | member arrow _ plain ih => exact (ih.member arrow plain).mono (Nat.le_succ _)

end CppSyntax
