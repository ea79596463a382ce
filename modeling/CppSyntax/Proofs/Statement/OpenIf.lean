import CppSyntax.Proofs.Everywhere.Grammar.Declaration
import CppSyntax.Proofs.Guess.Keeping
import CppSyntax.Proofs.Parsing.Fuel
import CppSyntax.Roundtrip

/-!
An `else` goes to the nearest `if`. Where a statement has been read that ends in an `if` without `else`,
no `else` stands behind it, for it would have been read as part of that statement. So the units that
texts are read as need no braces to keep an `else` away from an `if`.
-/

set_option synthInstance.maxSize 4096

namespace CppSyntax

open CppSyntax.Parser

/-- A first branch before an `else` does not end in an `if` without `else`. -/
@[reducible] def Tree.ElseIsNear : Tree .statementForm → Prop
  | .ifStatement _ _ _ thenBranch elseBranch =>
    elseBranch.isPresent = true → thenBranch.endsInOpenIf = false
  | _ => True

/-- Behind a statement, or the form of one, that ends in an `if` without `else` there is no `else`. -/
def Tree.NoElseBehind (tree : Tree c) (place : State) : Prop :=
  tree.endsInOpenIf = true → place.isAtWord .kwElse = false

theorem Tree.NoElseBehind.of_closed {tree : Tree c} {place : State}
    (closed : tree.endsInOpenIf = false) : tree.NoElseBehind place := by
  intro ends
  rw [closed] at ends
  cases ends

theorem Parser.Ensures.speculated {p : Parser α} {before : State → Prop} {after : α → State → Prop}
    (ensures : p.Ensures before after) : (speculate p : Parser (Except SyntaxError α)).Ensures before
      fun found state => ∀ value, found = .ok value → after value state := by
  intro context state known found reached answered
  rw [speculate_apply] at answered
  cases reply : p context state with
  | done value stopped =>
    rw [reply] at answered
    cases answered
    rintro _ ⟨⟩
    exact ensures context state known value reached reply
  | failed error stopped =>
    rw [reply] at answered
    cases answered
    nofun
  | exhausted =>
    rw [reply] at answered
    cases answered

namespace Grammar

/-- What is read of a statement is what belongs to it. -/
class Closing (g : Grammar Parser) : Prop extends g.Bearer Tree.ElseIsNear where
  closes : g.statement.Ensures (fun _ => True) Tree.NoElseBehind

variable {g : Grammar Parser} [closing : g.Closing]

/-- What is read of a statement last. -/
theorem statement_keeps (before : State → Prop) : g.statement.Ensures before fun statement reached =>
    Throughout Tree.ElseIsNear statement ∧ statement.NoElseBehind reached :=
  .anywhere (.and (Builds.from_places _) closing.closes)

/-- A statement that neither is an `if` nor ends in one. -/
def IsPlain (statement : Statement) : Prop :=
  Throughout Tree.ElseIsNear statement ∧ statement.endsInOpenIf = false

theorem declarationStatement_plain :
    g.declarationStatement.Ensures (fun _ => True) fun statement _ => IsPlain statement := by
  refine .here fun place _ => .bind (Builds.from_places _ (Q := Tree.ElseIsNear)) fun found => ?_
  refine .assume fun all => ?_
  rcases found with _ | ⟨place, form⟩
  · exact .pure fun _ _ => ⟨inferInstance, rfl⟩
  · have all := (Throughout.cons_iff.mp (Throughout.some_iff.mp all).parts).1
    refine .pure fun _ _ => ⟨?_, rfl⟩
    unfold Tree.asStatement
    infer_instance

theorem expressionStatement_plain :
    g.expressionStatement.Ensures (fun _ => True) fun statement _ => IsPlain statement := by
  refine .bind .anything fun place => .bind (Builds.from_places _ (Q := Tree.ElseIsNear)) fun value => ?_
  refine .assume fun all => .bind .anything fun _ => .bind .anything fun trailing => ?_
  exact .pure fun _ _ => ⟨inferInstance, rfl⟩

/-- What is made of an expression statement is that statement, and a failure stays one. -/
theorem evaluated_plain {made : Except SyntaxError Statement → Parser Statement}
    (keeps : ∀ statement, made (.ok statement) = pure statement)
    (fails : ∀ error, ∃ further, made (.error error) = failWith further) :
    (speculate g.expressionStatement >>= made).Ensures (fun _ => True) fun statement _ =>
      IsPlain statement := by
  refine .bind expressionStatement_plain.speculated fun result => .assume fun plain => ?_
  cases result with
  | ok statement => exact keeps statement ▸ .pure fun _ _ => plain statement rfl
  | error error =>
    obtain ⟨further, failed⟩ := fails error
    exact failed ▸ .failWith further

theorem eitherStatement_plain :
    g.eitherStatement.Ensures (fun _ => True) fun statement _ => IsPlain statement := by
  have declared : Ensures (some <$> speculate g.declarationStatement : Parser _) (fun _ => True)
      fun declared _ => ∀ statement, declared = some (.ok statement) → IsPlain statement :=
    .bind declarationStatement_plain.speculated fun result =>
      .pure fun _ plain statement same => plain statement (Option.some.inj same)
  unfold Grammar.eitherStatement
  refine .bind .anything fun ahead => ?_
  dsimp only
  refine .branch (fun _ => ?_) fun _ => (evaluated_plain (fun _ => rfl) fun _ => ⟨_, rfl⟩).anywhere
  refine .bind declared.anywhere fun declared => .assume fun plain => ?_
  rcases declared with _ | (earlier | statement)
  · exact evaluated_plain (fun _ => rfl) fun _ => ⟨_, rfl⟩
  · exact evaluated_plain (fun _ => rfl) fun _ => ⟨_, rfl⟩
  · exact .pure fun _ _ => plain statement rfl

theorem declarationOrExpression_plain :
    g.declarationOrExpression.Ensures (fun _ => True) fun statement _ => IsPlain statement := by
  refine .here fun place _ => ?_
  split
  · exact declarationStatement_plain.anywhere
  · exact expressionStatement_plain.anywhere
  · exact eitherStatement_plain.anywhere

instance : Builds Tree.ElseIsNear g.declarationOrExpression :=
  ⟨declarationOrExpression_plain.mono (fun _ => id) fun _ _ plain => plain.1⟩

instance : Builds Tree.ElseIsNear g.condition := by
  unfold Grammar.condition
  infer_instance

instance : Builds Tree.ElseIsNear g.initAndCondition := by
  unfold Grammar.initAndCondition
  infer_instance

/-- A form of a statement behind which no `else` is left that belongs to it. -/
def FormKept (form : Tree .statementForm) (reached : State) : Prop :=
  Throughout Tree.ElseIsNear form ∧ form.NoElseBehind reached

/-- An `else` behind the first branch is that of this `if`, since it is not that of one in which the
branch ends. -/
theorem elseBranch_keeps {isConstexpr : Bool} {init : Part .statement} {test : Tree .condition}
    {thenBranch : Statement} [Throughout Tree.ElseIsNear init] [Throughout Tree.ElseIsNear test]
    [Throughout Tree.ElseIsNear thenBranch] : Ensures (do
      let elseBranch ← if ← acceptWord .kwElse then some <$> g.statement else pure none
      return .ifStatement isConstexpr init test thenBranch (.ofOption elseBranch) :
        Parser (Tree .statementForm)) thenBranch.NoElseBehind FormKept := by
  intro context place noElse form reached answered
  unfold acceptWord at answered
  rw [acceptIf_then] at answered
  split at answered
  · rename_i there
    have closed : thenBranch.endsInOpenIf = false :=
      Bool.eq_false_iff.mpr fun ends => Bool.noConfusion (there.symm.trans (noElse ends))
    obtain ⟨found, behind, read, ⟨⟩⟩ := done_of_bind answered
    obtain ⟨elseBranch, _, read, ⟨⟩⟩ := done_of_bind read
    obtain ⟨all, kept⟩ := statement_keeps (fun _ => True) _ _ trivial _ _ read
    have near : Holds (Node.FormMeets Tree.ElseIsNear
        ⟨_, .ifStatement isConstexpr init test thenBranch (.present elseBranch)⟩) := ⟨fun _ => closed⟩
    exact ⟨(inferInstance : Throughout Tree.ElseIsNear
      (Tree.ifStatement isConstexpr init test thenBranch (.present elseBranch))), kept⟩
  · rename_i missing
    cases answered
    have near : Holds (Node.FormMeets Tree.ElseIsNear
        ⟨_, .ifStatement isConstexpr init test thenBranch .absent⟩) := ⟨nofun⟩
    exact ⟨(inferInstance : Throughout Tree.ElseIsNear
      (Tree.ifStatement isConstexpr init test thenBranch .absent)),
      fun _ => Bool.eq_false_iff.mpr missing⟩

theorem ifForm_keeps : g.ifForm.Ensures (fun _ => True) FormKept := by
  refine .bind .anything fun _ => .bind .anything fun isConstexpr => .bind .anything fun _ => ?_
  refine .bind (Builds.from_places _ (Q := Tree.ElseIsNear)) fun found => .assume fun all => ?_
  obtain ⟨init, test⟩ := found
  obtain ⟨allInit, allTest⟩ := Throughout.pair_iff.mp all
  refine .bind .anything fun _ => .bind (statement_keeps _) fun thenBranch => ?_
  exact .assumeAnd fun allThen => elseBranch_keeps

theorem whileForm_keeps : g.whileForm.Ensures (fun _ => True) FormKept := by
  refine .bind .anything fun _ => .bind .anything fun _ => ?_
  refine .bind (Builds.from_places _ (Q := Tree.ElseIsNear)) fun test => .assume fun allTest => ?_
  refine .bind .anything fun _ => .bind (statement_keeps _) fun body => .pure fun _ kept => ?_
  obtain ⟨allBody, noElse⟩ := kept
  exact ⟨inferInstance, noElse⟩

theorem switchForm_keeps : g.switchForm.Ensures (fun _ => True) FormKept := by
  refine .bind .anything fun _ => .bind .anything fun _ => ?_
  refine .bind (Builds.from_places _ (Q := Tree.ElseIsNear)) fun found => .assume fun all => ?_
  obtain ⟨init, test⟩ := found
  obtain ⟨allInit, allTest⟩ := Throughout.pair_iff.mp all
  refine .bind .anything fun _ => .bind (statement_keeps _) fun body => .pure fun _ kept => ?_
  obtain ⟨allBody, noElse⟩ := kept
  exact ⟨inferInstance, noElse⟩

instance {init : Option Statement} {test : Option (Tree .condition)} {step : Option Expr}
    [Throughout Tree.ElseIsNear init] [Throughout Tree.ElseIsNear test]
    [Throughout Tree.ElseIsNear step] : Throughout Tree.ElseIsNear (LoopHeader.counted init test step) :=
  ⟨(inferInstance : Throughout Tree.ElseIsNear (init, test, step)).everywhere⟩

instance {init : Option Statement} {element : Declaration} {range : Expr}
    [Throughout Tree.ElseIsNear init] [Throughout Tree.ElseIsNear element]
    [Throughout Tree.ElseIsNear range] :
    Throughout Tree.ElseIsNear (LoopHeader.ranged init element range) :=
  ⟨(inferInstance : Throughout Tree.ElseIsNear
    (init, Tree.declarationStatement element, range)).everywhere⟩

instance {init : Option Statement} [Throughout Tree.ElseIsNear init] :
    Builds Tree.ElseIsNear (g.countedHeader init) := by
  unfold Grammar.countedHeader
  infer_instance

instance {init : Option Statement} [Throughout Tree.ElseIsNear init] :
    Builds Tree.ElseIsNear (g.rangedHeader init) := by
  unfold Grammar.rangedHeader
  infer_instance

instance : Builds Tree.ElseIsNear g.loopHeader := by
  unfold Grammar.loopHeader
  infer_instance

theorem forForm_keeps : g.forForm.Ensures (fun _ => True) FormKept := by
  refine .bind .anything fun _ => .bind .anything fun _ => ?_
  refine .bind (Builds.from_places _ (Q := Tree.ElseIsNear)) fun header => .assume fun all => ?_
  refine .bind .anything fun _ => .bind (statement_keeps _) fun body => .assumeAnd fun allBody => ?_
  cases header with
  | counted init test step =>
    obtain ⟨allInit, allRest⟩ := Throughout.pair_iff.mp
      (⟨all.everywhere⟩ : Throughout Tree.ElseIsNear (init, test, step))
    obtain ⟨allTest, allStep⟩ := Throughout.pair_iff.mp allRest
    exact .pure fun _ noElse => ⟨inferInstance, noElse⟩
  | ranged init element range =>
    obtain ⟨allInit, allRest⟩ := Throughout.pair_iff.mp
      (⟨all.everywhere⟩ : Throughout Tree.ElseIsNear (init, Tree.declarationStatement element, range))
    obtain ⟨allElement, allRange⟩ := Throughout.pair_iff.mp allRest
    have all := (Throughout.cons_iff.mp allElement.parts).1
    exact .pure fun _ noElse => ⟨inferInstance, noElse⟩

/-- The parser reads a form that does not end in a statement. -/
class Closes (p : Parser (Tree .statementForm)) : Prop where
  ensures : p.Ensures (fun _ => True) fun form _ => form.endsInOpenIf = false

theorem Closes.keeps {p : Parser (Tree .statementForm)} [Builds Tree.ElseIsNear p] [closes : Closes p] :
    p.Ensures (fun _ => True) FormKept :=
  .mono (.and (Builds.from_places _) closes.ensures) (fun _ => id) fun _ _ ⟨all, closed⟩ =>
    ⟨all, .of_closed closed⟩

instance : Builds Tree.ElseIsNear g.doForm := by
  unfold Grammar.doForm
  infer_instance

omit closing in
instance : Closes g.doForm :=
  ⟨.bind .anything fun _ => .bind .anything fun _ => .bind .anything fun _ => .bind .anything fun _ =>
    .bind .anything fun _ => .bind .anything fun _ => .bind .anything fun _ => .pure fun _ _ => rfl⟩

instance : Builds Tree.ElseIsNear g.handlerParameter := by
  unfold Grammar.handlerParameter
  infer_instance

instance : Builds Tree.ElseIsNear g.handler := by
  unfold Grammar.handler
  infer_instance

instance (handlers : Bearing Tree.ElseIsNear (List (Tree .handler))) :
    Builds Tree.ElseIsNear (g.handlerStep handlers.value) := by
  unfold Grammar.handlerStep
  infer_instance

instance : Builds Tree.ElseIsNear g.tryForm := by
  unfold Grammar.tryForm
  infer_instance

omit closing in
instance : Closes g.tryForm :=
  ⟨.bind .anything fun _ => .bind .anything fun _ => .bind .anything fun _ =>
    .branch (fun _ => .failFirst _) fun _ => .pure fun _ _ => rfl⟩

instance : Builds Tree.ElseIsNear g.returnForm := by
  unfold Grammar.returnForm
  infer_instance

omit closing in
instance : Closes g.returnForm := by
  refine ⟨.bind .anything fun _ => .here fun place _ => .branch (fun _ => ?_) fun _ => ?_⟩
  · exact .bind .anything fun _ => .bind .anything fun _ => .pure fun _ _ => rfl
  · exact .bind .anything fun _ => .bind .anything fun _ => .pure fun _ _ => rfl

instance : Builds Tree.ElseIsNear gotoForm := by
  unfold Grammar.gotoForm
  infer_instance

instance : Closes gotoForm :=
  ⟨.bind .anything fun _ => .bind .anything fun _ => .bind .anything fun _ => .pure fun _ _ => rfl⟩

instance : Builds Tree.ElseIsNear g.caseForm := by
  unfold Grammar.caseForm
  infer_instance

omit closing in
instance : Closes g.caseForm :=
  ⟨.bind .anything fun _ => .bind .anything fun _ => .bind .anything fun _ => .pure fun _ _ => rfl⟩

theorem wordForm_keeps {form : Tree .statementForm} (all : Throughout Tree.ElseIsNear form)
    (closed : form.endsInOpenIf = false) (close : Punctuator) (purpose : String) :
    (wordForm form close purpose : Parser _).Ensures (fun _ => True) FormKept :=
  .bind .anything fun _ => .bind .anything fun _ => .pure fun _ _ => ⟨all, .of_closed closed⟩

theorem statementKeyword_keeps {word : Keyword} {form : Parser (Tree .statementForm)}
    (found : g.statementKeyword? word = some form) : form.Ensures (fun _ => True) FormKept := by
  unfold Grammar.statementKeyword? at found
  split at found <;> cases found
  · exact ifForm_keeps
  · exact whileForm_keeps
  · exact Closes.keeps
  · exact forForm_keeps
  · exact switchForm_keeps
  · exact Closes.keeps
  · exact Closes.keeps
  · exact wordForm_keeps inferInstance rfl _ _
  · exact wordForm_keeps inferInstance rfl _ _
  · exact Closes.keeps
  · exact Closes.keeps
  · exact wordForm_keeps inferInstance rfl _ _

theorem statementForm_keeps {form : Parser (Tree .statementForm)} {place : State}
    (found : g.statementForm? place = some form) : form.Ensures (fun _ => True) FormKept := by
  unfold Grammar.statementForm? at found
  split at found
  · cases found
    exact .bind .anything fun _ => .pure fun _ _ => ⟨inferInstance, .of_closed rfl⟩
  · cases found
    refine .bind (Builds.from_places _ (Q := Tree.ElseIsNear)) fun body => .pure fun _ all => ?_
    exact ⟨inferInstance, .of_closed rfl⟩
  · cases found
    exact .bind .anything fun _ => .pure fun _ _ => ⟨inferInstance, .of_closed rfl⟩
  · exact statementKeyword_keeps found
  · split at found
    · cases found
      exact .bind .anything fun _ => .pure fun _ _ => ⟨inferInstance, .of_closed rfl⟩
    · cases found
  · cases found

theorem statementRule_keeps : g.statementRule.Ensures (fun _ => True) fun statement reached =>
    Throughout Tree.ElseIsNear statement ∧ statement.NoElseBehind reached := by
  refine .nested (.here fun place _ => ?_)
  split
  · refine declarationOrExpression_plain.mono (fun _ _ => trivial) fun _ _ plain => ?_
    exact ⟨plain.1, .of_closed plain.2⟩
  · rename_i form found
    refine .bind .anything fun start => .bind (statementForm_keeps found).anywhere fun form => ?_
    refine .assumeAnd fun all => ?_
    refine .branch (fun _ => .pure fun _ noElse => ⟨inferInstance, noElse⟩) fun _ => ?_
    refine .here fun state noElse => .pure ?_
    rintro _ rfl
    exact ⟨inferInstance, noElse⟩

theorem rule_bears (symbol : Symbol) : (g.rule symbol).Ensures (fun _ => True) fun value _ =>
    symbol.Bears Tree.ElseIsNear value := by
  cases symbol with
  | declaration scope =>
    exact (inferInstance : Builds Tree.ElseIsNear (g.declarationRule scope)).ensures
  | statement => exact statementRule_keeps.mono (fun _ => id) fun _ _ kept => kept.1
  | clause => exact (inferInstance : Builds Tree.ElseIsNear g.clauseRule).ensures
  | assignment => exact (inferInstance : Builds Tree.ElseIsNear g.assignmentRule).ensures
  | binary level => exact (inferInstance : Builds Tree.ElseIsNear (g.binaryRule level)).ensures
  | cast => exact (inferInstance : Builds Tree.ElseIsNear g.castRule).ensures
  | unary => exact (inferInstance : Builds Tree.ElseIsNear g.unaryRule).ensures
  | specifiers scope => exact (inferInstance : Builds Tree.ElseIsNear (g.specifiersRule scope)).ensures
  | declarator mode => exact (inferInstance : Builds Tree.ElseIsNear (g.declaratorRule mode)).ensures
  | name inExpression => exact (inferInstance : Builds Tree.ElseIsNear (g.nameRule inExpression)).ensures
  | templateParameters => exact (inferInstance : Builds Tree.ElseIsNear g.templateParametersRule).ensures

instance derive_closing (fuel depth : Nat) : Closing ⟨fuel, derive fuel depth⟩ := by
  induction depth with
  | zero => exact { bears := fun _ _ _ _ _ _ => nofun, closes := fun _ _ _ _ _ => nofun }
  | succ depth ih =>
    exact { bears := rule_bears, closes := statementRule_keeps.mono (fun _ => id) fun _ _ kept => kept.2 }

instance : Builds Tree.ElseIsNear g.translationUnit := by
  unfold Grammar.translationUnit
  infer_instance

end Grammar

/-- An `if` written as it stands, without braces that are put in. -/
def Render.bareIf (isConstexpr : Bool) (init : Option Doc) (test : Doc) (thenBranch : Drawn .statement)
    (elseBranch : Option (Drawn .statement)) : Doc :=
  "if " ++ .onlyIf isConstexpr "constexpr " ++ (initStatement init ++ test).parenthesized ++
    subStatement thenBranch ++
    .ifPresent (elseBranch.map (continued (endsInBrace thenBranch.tree) "else" ++ elsePart ·))

theorem Render.ifStatement_bare {isConstexpr : Bool} {init : Option Doc} {test : Doc}
    {thenBranch : Drawn .statement} {elseBranch : Option (Drawn .statement)}
    (bare : needsBraces thenBranch elseBranch = false) :
    ifStatement isConstexpr init test thenBranch elseBranch =
      bareIf isConstexpr init test thenBranch elseBranch := by
  unfold ifStatement bareIf thenPart
  simp only [bare, Bool.false_or, Bool.false_eq_true, if_false]

theorem Tree.ElseIsNear.needsNoBraces {isConstexpr : Bool} {init : Part .statement}
    {test : Tree .condition} {thenBranch : Statement} {elseBranch : Part .statement}
    (near : Tree.ElseIsNear (.ifStatement isConstexpr init test thenBranch elseBranch)) :
    Render.needsBraces ⟨thenBranch, thenBranch.drawing⟩ elseBranch.drawn = false := by
  cases elseBranch with
  | absent => rfl
  | present elseBranch => exact near rfl

theorem parse_throughout {source : String} {unit : TranslationUnit}
    (parsed : parse source = .ok unit) : Throughout Tree.ElseIsNear unit := by
  unfold parse at parsed
  cases opened : Reader.ofSource source [] with
  | error error =>
    rw [opened] at parsed
    cases parsed
  | ok start =>
    rw [opened] at parsed
    have parsed : (Reader.translationUnit start).1 = .ok unit := parsed
    unfold Reader.translationUnit Reader.run at parsed
    split at parsed
    · rename_i found reached reply
      cases parsed
      have builds : Builds Tree.ElseIsNear (Grammar.translationUnit (.ofFuel (Reader.fuel start))) :=
        inferInstanceAs (Builds Tree.ElseIsNear (Grammar.translationUnit
          ⟨Reader.fuel start, Grammar.derive (Reader.fuel start) (Reader.fuel start)⟩))
      exact builds.ensures .top start trivial _ reached reply
    · cases parsed
    · cases parsed

/-- At no `if` with an `else`, wherever it stands in a unit that was read, does the first branch end in an
`if` without `else`. So each is written as it stands: nowhere are braces put in. -/
theorem parse_elseIsNear {source : String} {unit : TranslationUnit} (parsed : parse source = .ok unit)
    {isConstexpr : Bool} {init : Part .statement} {test : Tree .condition} {thenBranch : Statement}
    {elseBranch : Part .statement}
    (inside : (Tree.ifStatement isConstexpr init test thenBranch elseBranch).node.Within unit.node) :
    (elseBranch.isPresent = true → thenBranch.endsInOpenIf = false) ∧
      (Tree.ifStatement isConstexpr init test thenBranch elseBranch).drawing =
        Render.bareIf isConstexpr (init.drawn.map (·.drawing)) test.drawing
          ⟨thenBranch, thenBranch.drawing⟩ elseBranch.drawn := by
  have near : Tree.ElseIsNear (.ifStatement isConstexpr init test thenBranch elseBranch) :=
    Throughout.tree_iff.mp (parse_throughout parsed) _ inside
  exact ⟨near, Render.ifStatement_bare near.needsNoBraces⟩

/-- One variable was read, and it is a lambda that holds an `if` with an `else` and nothing else. -/
def isLambdaOfWholeIf : Except SyntaxError TranslationUnit → Bool
  | .ok (.unit (.cons (.declaration _ (.variable _ (.cons (.initDeclarator _ _ (.present (.assignInit
      (.lambda _ _ _ _ _ _ (.block (.cons (.statement _
        (.ifStatement _ _ _ _ (.present _))) .nil) _))))) .nil))) .nil) _) => true
  | _ => false

/-- In the body of a lambda, a loop that ends in a whole `if` is the first branch of another one. -/
theorem parse_elseIsNear_lambda :
    let source := "auto f = [] { if (a) while (b) if (c) ; else ; else ; };"
    ∃ unit isConstexpr init test thenBranch elseBranch, parse source = .ok unit ∧
      (Tree.ifStatement isConstexpr init test thenBranch elseBranch).node.Within unit.node ∧
      elseBranch.isPresent = true ∧ thenBranch.endsInOpenIf = false ∧
      (Tree.ifStatement isConstexpr init test thenBranch elseBranch).drawing =
        Render.bareIf isConstexpr (init.drawn.map (·.drawing)) test.drawing
          ⟨thenBranch, thenBranch.drawing⟩ elseBranch.drawn := by
  intro source
  have shape : isLambdaOfWholeIf (parse source) = true := by decide +kernel
  unfold isLambdaOfWholeIf at shape
  split at shape
  · rename_i isConstexpr init test thenBranch elseBranch _ _ parsed
    suffices inside : (Tree.ifStatement isConstexpr init test thenBranch (.present elseBranch)).node.Within _
      from ⟨_, _, _, _, _, .present _, parsed, inside, rfl, (parse_elseIsNear parsed inside).1 rfl,
        (parse_elseIsNear parsed inside).2⟩
    refine .under (List.mem_singleton_self _) (.under (List.mem_singleton_self _) ?_)
    refine .under (List.mem_append_right _ (List.mem_singleton_self _)) ?_
    refine .under (List.mem_append_right _ (List.mem_singleton_self _)) ?_
    refine .under (List.mem_singleton_self _) ?_
    refine .under (List.mem_append_right _ (List.mem_singleton_self _)) ?_
    exact .under (List.mem_singleton_self _) (.under (List.mem_singleton_self _) .self)
  · cases shape

end CppSyntax
