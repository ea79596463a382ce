import CppSyntax.Proofs.Expression.Cast
import CppSyntax.Proofs.Expression.Forms
import CppSyntax.Grammar.Derivation
import CppSyntax.Tree.Structure

/-!
What stands between the parentheses of control statements when it is made of numbers. A declaration
is tried first everywhere, and a number is none.
-/

namespace CppSyntax

open CppSyntax.Parser Grammar

/-- A number that is written in decimal digits. -/
def Tree.integer (digits : String) : Expr := .literal ⟨.integer, digits⟩

/-- A number as a statement. -/
def Tree.integerStatement (place : Placement) (digits : String) : Statement :=
  .statement place (.expressionStatement (.integer digits))

/-- A number as a condition. -/
def Tree.integerTest (digits : String) : Tree .condition := .testExpression (.integer digits)

/-- The token of a number, or none where the number is left out. -/
inductive SpellsDigits : Option String → List Glyph → Prop where
  | none : SpellsDigits none []
  | some (digits : String) (joint : Bool) : SpellsDigits (some digits) [⟨.integer digits, joint⟩]

/-- The tokens of a number as a statement, or none where it is left out. -/
inductive SpellsStatement : Option String → List Glyph → Prop where
  | none : SpellsStatement none []
  | some (digits : String) (joint closed : Bool) :
      SpellsStatement (some digits) [⟨.integer digits, joint⟩, ⟨.punctuator .semicolon, closed⟩]

section

variable {digits : String} {joint closed : Bool} {mark : Punctuator} {first : Glyph}
  {rest : List Glyph} {context : Context} {sure : Prop} {g : Grammar Parser}

/-- A number before a mark that ends operands. -/
theorem integer_reads (ends : mark.endsOperand = true) :
    RuleReads (fun g => g.expression) 1
      (⟨.integer digits, joint⟩ :: ⟨.punctuator mark, closed⟩ :: rest) (· = .integer digits)
      (⟨.punctuator mark, closed⟩ :: rest) := by
  have number : ReadsAs Precedence.primary 0 (.integer digits)
      (⟨.integer digits, joint⟩ :: ⟨.punctuator mark, closed⟩ :: rest)
      (⟨.punctuator mark, closed⟩ :: rest) := .integer (List.cons_ne_nil _ _)
  refine number.whole ?_
  rw [tightness_ends rfl ends]
  decide

private theorem loneSpecifiers_refuses (noType : first.kind.startsNoType = true)
    (derived : g.IsDerived) : g.loneSpecifiers.Refuses context (first :: rest) :=
  (specifiers_reads_nothing noType derived).andThen (Refuses.fail _)

private theorem conditionDeclaration_refuses (noType : first.kind.startsNoType = true)
    (derived : g.IsDerived) : g.conditionDeclaration.Refuses context (first :: rest) :=
  .byPlace fun _ _ => Refuses.bind (loneSpecifiers_refuses noType derived)

theorem condition_reads (ends : mark.endsOperand = true) (derived : g.IsDerived)
    (room : Room sure context 1) :
    g.condition.Reads context sure
      (⟨.integer digits, joint⟩ :: ⟨.punctuator mark, closed⟩ :: rest) (· = .integerTest digits)
      (⟨.punctuator mark, closed⟩ :: rest) := by
  refine .attemptNone (conditionDeclaration_refuses rfl derived) ?_
  exact (integer_reads ends g derived sure context room).andThen (.pure rfl)

theorem expressionStatement_reads (more : rest ≠ []) (derived : g.IsDerived)
    (room : Room sure context 1) :
    g.expressionStatement.Reads context sure
      (⟨.integer digits, joint⟩ :: ⟨.punctuator .semicolon, closed⟩ :: rest)
      (·.erase = .integerStatement .erased digits) rest := by
  refine .byPlace fun start _ => ?_
  refine (integer_reads rfl g derived sure context room).andThen ?_
  refine (Reads.expect more rfl).bind fun _ _ => .byPlace fun _ _ => .pure rfl

theorem declarationOrExpression_reads (more : rest ≠ []) (derived : g.IsDerived)
    (room : Room sure context 1) :
    g.declarationOrExpression.Reads context sure
      (⟨.integer digits, joint⟩ :: ⟨.punctuator .semicolon, closed⟩ :: rest)
      (·.erase = .integerStatement .erased digits) rest := by
  refine .byPlace fun state known => ?_
  have evaluates : state.statementStart = .evaluates := by
    rw [State.statementStart, State.kind_of_glyphs known]
  rw [evaluates]
  exact expressionStatement_reads more derived room

private theorem declarationOrExpression_refuses (derived : g.IsDerived)
    (plain : context.inTemplateArguments = false) :
    g.declarationOrExpression.Refuses context
      (⟨.integer digits, joint⟩ :: ⟨.punctuator .rightParen, closed⟩ :: rest) := by
  refine .byPlace fun state known => ?_
  have evaluates : state.statementStart = .evaluates := by
    rw [State.statementStart, State.kind_of_glyphs known]
  rw [evaluates]
  refine .byPlace fun start _ => ?_
  refine (integer_reads rfl g derived False context (.unsure plain)).andThen ?_
  exact Refuses.bind ((Reads.missing (by simp)).andThen (Refuses.fail _))

/-- Beyond the limit not even a number is read. -/
private theorem integer_refuses (deep : nestingLimit ≤ context.depth) (derived : g.IsDerived) :
    g.expression.Refuses context (⟨.integer digits, joint⟩ :: rest) := by
  refine Refuses.bind (derived.symbol .assignment fun inner innerDerived => ?_)
  refine (Reads.missingWord (by simp)).andThen (Refuses.bind (Refuses.bind ?_))
  refine innerDerived.symbol (.binary _) fun inner innerDerived => Refuses.bind ?_
  exact innerDerived.symbol .cast fun _ _ => Refuses.nested deep

/-- A condition with a statement before it, or with none. -/
theorem initAndCondition_reads {init : Option String} {front : List Glyph}
    (spelled : SpellsStatement init front) (derived : g.IsDerived) (room : Room sure context 1) :
    g.initAndCondition.Reads context sure
      (front ++ ⟨.integer digits, joint⟩ :: ⟨.punctuator .rightParen, closed⟩ :: rest)
      (fun found => found.1.map Tree.erase = init.map (.integerStatement .erased) ∧
        found.2 = .integerTest digits)
      (⟨.punctuator .rightParen, closed⟩ :: rest) := by
  have condition {certain : Prop} (room : Room certain context 1) :
      g.condition.Reads { context with inTemplateArguments := false } certain
        (⟨.integer digits, joint⟩ :: ⟨.punctuator .rightParen, closed⟩ :: rest)
        (· = .integerTest digits) (⟨.punctuator .rightParen, closed⟩ :: rest) :=
    condition_reads rfl derived room.bracketed
  refine .angleCloses ?_
  cases spelled with
  | none =>
    refine .attemptNone (declarationOrExpression_refuses derived rfl) ?_
    exact (condition room).andThen (.pure ⟨rfl, rfl⟩)
  | some before spaced ended =>
    by_cases shallow : context.depth < nestingLimit
    · have allowed : Room True context 1 := ⟨room.plain, fun _ => shallow⟩
      refine Reads.unsure (?_ : Parser.Reads _ _ True _ _ _) fun _ => trivial
      refine .attempt (declarationOrExpression_reads (List.cons_ne_nil _ _) derived
        allowed.bracketed) (fun found same => ?_) fun never => absurd trivial never
      exact (condition allowed).andThen (.pure ⟨congrArg some same, rfl⟩)
    · have deep : nestingLimit ≤ context.depth := Nat.le_of_not_lt shallow
      refine .of_refuses ?_ fun certain => shallow (room.fits certain)
      have noStatement : g.declarationOrExpression.Refuses
          { context with inTemplateArguments := false } (⟨.integer before, spaced⟩ ::
            ⟨.punctuator .semicolon, ended⟩ :: ⟨.integer digits, joint⟩ ::
            ⟨.punctuator .rightParen, closed⟩ :: rest) :=
        .byPlace fun state known => by
          rw [State.statementStart, State.kind_of_glyphs known]
          exact .byPlace fun _ _ => Refuses.bind (integer_refuses deep derived)
      refine .attemptNone noStatement (Refuses.bind ?_)
      exact .attemptNone (conditionDeclaration_refuses rfl derived)
        (Refuses.bind (integer_refuses deep derived))

private theorem rangedHeader_refuses {init : Option Statement}
    (noType : first.kind.startsNoType = true) (derived : g.IsDerived) :
    (g.rangedHeader init).Refuses context (first :: rest) :=
  Refuses.bind (.byPlace fun _ _ => Refuses.bind (loneSpecifiers_refuses noType derived))

private theorem countedHeader_reads {init : Option Statement} {test step : Option String}
    {middle final : List Glyph} (spelledTest : SpellsDigits test middle)
    (spelledStep : SpellsDigits step final) (derived : g.IsDerived) (room : Room sure context 1) :
    (g.countedHeader init).Reads context sure (middle ++ ⟨.punctuator .semicolon, joint⟩ ::
        (final ++ ⟨.punctuator .rightParen, closed⟩ :: rest))
      (· = .counted init (test.map .integerTest) (step.map .integer))
      (⟨.punctuator .rightParen, closed⟩ :: rest) := by
  have stepped (found : Option (Tree .condition)) : (do
      expect .semicolon "after for condition"
      let step ← if (← here).isAt .rightParen then pure none else some <$> g.expression
      return .counted init found step : Parser LoopHeader).Reads context sure
      (⟨.punctuator .semicolon, joint⟩ :: (final ++ ⟨.punctuator .rightParen, closed⟩ :: rest))
      (· = .counted init found (step.map .integer)) (⟨.punctuator .rightParen, closed⟩ :: rest) := by
    refine (Reads.expect (by simp) rfl).bind fun _ _ => .byPlace fun state known => ?_
    cases spelledStep with
    | none =>
      have closes : state.isAt .rightParen = true := by
        simp [State.isAt_of_glyphs known]
      rw [closes]
      exact .pure rfl
    | some digits spaced =>
      have number : state.isAt .rightParen = false := by
        simp [State.isAt_of_glyphs known]
      rw [number]
      have value : (some <$> g.expression : Parser (Option Expr)).Reads context sure
          (⟨.integer digits, spaced⟩ :: ⟨.punctuator .rightParen, closed⟩ :: rest)
          (· = some (.integer digits)) (⟨.punctuator .rightParen, closed⟩ :: rest) :=
        (integer_reads rfl g derived sure context room).andThen (.pure rfl)
      exact value.andThen (.pure rfl)
  refine .byPlace fun state known => ?_
  cases spelledTest with
  | none =>
    have closes : state.isAt .semicolon = true := by
      simp [State.isAt_of_glyphs known]
    rw [closes]
    exact stepped none
  | some digits spaced =>
    have number : state.isAt .semicolon = false := by
      simp [State.isAt_of_glyphs known]
    rw [number]
    have value : (some <$> g.condition : Parser (Option (Tree .condition))).Reads context sure
        (⟨.integer digits, spaced⟩ :: ⟨.punctuator .semicolon, joint⟩ ::
          (final ++ ⟨.punctuator .rightParen, closed⟩ :: rest)) (· = some (.integerTest digits))
        (⟨.punctuator .semicolon, joint⟩ ::
          (final ++ ⟨.punctuator .rightParen, closed⟩ :: rest)) :=
      (condition_reads rfl derived room).andThen (.pure rfl)
    exact value.andThen (stepped (some (.integerTest digits)))

/-- A header in which each of the three parts is a number or left out. -/
theorem loopHeader_reads {init test step : Option String} {front middle final : List Glyph}
    {ended : Bool} (spelledInit : SpellsDigits init front) (spelledTest : SpellsDigits test middle)
    (spelledStep : SpellsDigits step final) (derived : g.IsDerived) (room : Room sure context 1) :
    g.loopHeader.Reads context sure (front ++ ⟨.punctuator .semicolon, ended⟩ :: (middle ++
        ⟨.punctuator .semicolon, joint⟩ :: (final ++ ⟨.punctuator .rightParen, closed⟩ :: rest)))
      (fun found => ∃ start, found = .counted start (test.map .integerTest) (step.map .integer) ∧
        start.map Tree.erase = init.map (.integerStatement .erased))
      (⟨.punctuator .rightParen, closed⟩ :: rest) := by
  have counted (start : Option Statement) :
      (g.countedHeader start).Reads context sure (middle ++ ⟨.punctuator .semicolon, joint⟩ ::
        (final ++ ⟨.punctuator .rightParen, closed⟩ :: rest))
      (· = .counted start (test.map .integerTest) (step.map .integer))
      (⟨.punctuator .rightParen, closed⟩ :: rest) :=
    countedHeader_reads spelledTest spelledStep derived room
  cases spelledInit with
  | none =>
    refine (Reads.accept (by simp) rfl).andThen ?_
    exact (counted none).mono fun found same => ⟨none, same, rfl⟩
  | some digits spaced =>
    refine (Reads.missing (by simp)).andThen ?_
    refine .attemptNone (rangedHeader_refuses rfl derived) ?_
    refine (declarationOrExpression_reads ?_ derived room).bind fun start same => ?_
    · simp
    · have noRange : (g.rangedHeader (some start)).Refuses context (middle ++
          ⟨.punctuator .semicolon, joint⟩ :: (final ++ ⟨.punctuator .rightParen, closed⟩ :: rest)) := by
        cases spelledTest <;> exact rangedHeader_refuses rfl derived
      refine .attemptNone noRange ?_
      exact (counted (some start)).mono fun found known => ⟨some start, known, congrArg some same⟩

end

end CppSyntax
