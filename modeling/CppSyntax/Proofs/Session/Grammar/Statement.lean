import CppSyntax.Proofs.Session.Grammar.Declaration

set_option synthInstance.maxSize 4096

/-!
The routines for statements mirror their parsers. Of two errors the one that got further is the same on
both sides, because tokens of the same index stand in the same order.
-/

namespace CppSyntax.Grammar

open CppSyntax.Parser

variable {L : Likeness} {moves : Bool} {g : Grammar Routine} {h : Grammar Parser}
  [paired : Paired L g h]

theorem statementStart_seen {first second : State} (sees : L.Sees first second) :
    first.statementStart = second.statementStart := by
  unfold State.statementStart State.isAhead State.isAheadWord
  rw [sees.kind, sees.ahead]

instance followsDeclarator_equal (sights : Sights L) (shapes : Likes L.detail Declarator) :
    Equal (sights.fst.followsDeclarator shapes.fst) (sights.snd.followsDeclarator shapes.snd) :=
  ⟨by
    have reference : shapes.fst.hasReference = shapes.snd.hasReference := Equal.eq
    unfold State.followsDeclarator
    rw [sights.sees.kind, reference]⟩

section

variable {detail : Detail}

theorem asStatement_view (inner : Declaration) :
    view detail inner.asStatement = (view detail inner).asStatement := by
  cases inner
  cases detail <;> rfl

instance {a b : Declaration} [same : Same detail a b] : Same detail a.asStatement b.asStatement :=
  same.map asStatement_view

instance {init init' : Option Statement} {test test' : Option (Tree .condition)}
    {step step' : Option Expr} [x : Same detail init init'] [y : Same detail test test']
    [z : Same detail step step'] :
    Same detail (LoopHeader.counted init test step) (.counted init' test' step') :=
  x.map₃ y z fun _ _ _ => rfl

instance {init init' : Option Statement} {element element' : Declaration} {range range' : Expr}
    [x : Same detail init init'] [y : Same detail element element'] [z : Same detail range range'] :
    Same detail (LoopHeader.ranged init element range) (.ranged init' element' range') :=
  x.map₃ y z fun _ _ _ => rfl

end

/-- Both headers are of one kind. -/
theorem sameHeaders {detail : Detail} {a b : LoopHeader} (same : Same detail a b) :
    (∃ (inits : Likes detail (Option Statement)) (tests : Likes detail (Option (Tree .condition)))
      (steps : Likes detail (Option Expr)), a = .counted inits.fst tests.fst steps.fst ∧
        b = .counted inits.snd tests.snd steps.snd) ∨
    ∃ (inits : Likes detail (Option Statement)) (elements : Likes detail Declaration)
      (ranges : Likes detail Expr), a = .ranged inits.fst elements.fst ranges.fst ∧
        b = .ranged inits.snd elements.snd ranges.snd := by
  have eq := same.eq
  cases a with
  | counted =>
    cases b with
    | counted =>
      obtain ⟨inits, tests, steps⟩ := LoopHeader.counted.inj eq
      exact .inl ⟨⟨_, _, ⟨inits⟩⟩, ⟨_, _, ⟨tests⟩⟩, ⟨_, _, ⟨steps⟩⟩, rfl, rfl⟩
    | ranged => cases eq
  | ranged =>
    cases b with
    | counted => cases eq
    | ranged =>
      obtain ⟨inits, elements, ranges⟩ := LoopHeader.ranged.inj eq
      exact .inr ⟨⟨_, _, ⟨inits⟩⟩, ⟨_, _, ⟨elements⟩⟩, ⟨_, _, ⟨ranges⟩⟩, rfl, rfl⟩

/-- Errors about tokens of the same index are ordered alike. -/
theorem further_reports {a b x y : SyntaxError} (first : L.Reports a x) (second : L.Reports b y) :
    L.Reports (a.further b) (x.further y) := by
  obtain ⟨pair, member, left, right⟩ := first.place
  obtain ⟨other, member', left', right'⟩ := second.place
  unfold SyntaxError.further
  rw [left, left', right, right', L.order pair member other member']
  split
  · exact second
  · exact first

section

include paired

instance declarationStatement_mirrors :
    Mirrors L false g.declarationStatement h.declarationStatement := by
  unfold Grammar.declarationStatement
  refine .byPlace fun sights => ?_
  have place := sights.sees.bare
  infer_instance

instance expressionStatement_mirrors : Mirrors L false g.expressionStatement h.expressionStatement := by
  unfold Grammar.expressionStatement
  refine .andThen fun places => .andThen fun values => .anywhere ⟨?_⟩
  refine (Mirrors.expect _ _).mirrors.behind fun _ _ _ => ?_
  refine .trailing fun comment comment' comments => .of_mirrors (.pure ?_)
  have place := places.same.withTrailing comments
  infer_instance

instance : Mirrors L false g.declarationStart h.declarationStart := by
  unfold Grammar.declarationStart
  infer_instance

instance eitherStatement_mirrors : Mirrors L false g.eitherStatement h.eitherStatement := by
  unfold Grammar.eitherStatement
  have declarations := (inferInstance :
    Mirrors L false g.declarationStatement h.declarationStatement).mirrors.speculate
  have expressions := (inferInstance :
    Mirrors L false g.expressionStatement h.expressionStatement).mirrors.speculate
  refine .andThenSame fun found => ⟨?_⟩
  dsimp only
  split
  · have declared : MirrorsBy L false
        (fun a b => ∃ x y, a = some x ∧ b = some y ∧ MirrorsBy.Tried L (Same L.detail · ·) x y)
        (some <$> speculate g.declarationStatement) (some <$> speculate h.declarationStatement) :=
      declarations.map fun x y tried => ⟨x, y, rfl, rfl, tried⟩
    refine declared.andThen fun _ _ ⟨x, y, left, right, tried⟩ => ?_
    subst left right
    match x, y, tried with
    | .ok _, .ok _, same => exact .pure same
    | .error _, .error _, earlier =>
      refine expressions.andThen fun a b tried => ?_
      match a, b, tried with
      | .ok _, .ok _, same => exact .pure same
      | .error _, .error _, later => exact .failWith (further_reports earlier later)
  · refine expressions.andThen fun a b tried => ?_
    match a, b, tried with
    | .ok _, .ok _, same => exact .pure same
    | .error _, .error _, reports => exact .failWith reports

instance declarationOrExpression_mirrors :
    Mirrors L false g.declarationOrExpression h.declarationOrExpression := by
  unfold Grammar.declarationOrExpression
  refine .byPlace fun sights => ?_
  rw [statementStart_seen sights.sees]
  split <;> infer_instance

instance : Mirrors L false g.condition h.condition := by
  unfold Grammar.condition
  infer_instance

instance : Mirrors L false g.initAndCondition h.initAndCondition := by
  unfold Grammar.initAndCondition
  infer_instance

instance {init init' : Option Statement} [Same L.detail init init'] :
    Mirrors L false (g.countedHeader init) (h.countedHeader init') := by
  unfold Grammar.countedHeader
  infer_instance

instance {init init' : Option Statement} [Same L.detail init init'] :
    Mirrors L false (g.rangedHeader init) (h.rangedHeader init') := by
  unfold Grammar.rangedHeader
  infer_instance

instance : Mirrors L false g.loopHeader h.loopHeader := by
  unfold Grammar.loopHeader
  infer_instance

instance : Mirrors L false g.handlerParameter h.handlerParameter := by
  unfold Grammar.handlerParameter
  infer_instance

instance : Mirrors L false g.handler h.handler := by
  unfold Grammar.handler
  infer_instance

instance (handlers : Likes L.detail (List (Tree .handler))) :
    Mirrors L false (g.handlerStep handlers.fst) (h.handlerStep handlers.snd) := by
  unfold Grammar.handlerStep
  infer_instance

section

variable {session : Session} {state : State} (meets : L.Meets session state)
  (inside : state.atEnd = false)

include meets inside

private theorem ifForm_mirrors :
    MirrorsAt L session state true (Same L.detail · ·) g.ifForm h.ifForm := by
  unfold Grammar.ifForm
  exact .advanceThen meets inside inferInstance

private theorem whileForm_mirrors :
    MirrorsAt L session state true (Same L.detail · ·) g.whileForm h.whileForm := by
  unfold Grammar.whileForm
  exact .advanceThen meets inside inferInstance

private theorem doForm_mirrors :
    MirrorsAt L session state true (Same L.detail · ·) g.doForm h.doForm := by
  unfold Grammar.doForm
  exact .advanceThen meets inside inferInstance

private theorem switchForm_mirrors :
    MirrorsAt L session state true (Same L.detail · ·) g.switchForm h.switchForm := by
  unfold Grammar.switchForm
  exact .advanceThen meets inside inferInstance

private theorem forForm_mirrors :
    MirrorsAt L session state true (Same L.detail · ·) g.forForm h.forForm := by
  unfold Grammar.forForm
  refine .advanceThen meets inside (.andThenSame fun _ => .andThen fun headers => ?_)
  refine .andThenSame fun _ => .andThen fun bodies => ?_
  rcases sameHeaders headers.same with ⟨_, _, _, left, right⟩ | ⟨_, _, _, left, right⟩
  all_goals
    rw [left, right]
    infer_instance

private theorem tryForm_mirrors :
    MirrorsAt L session state true (Same L.detail · ·) g.tryForm h.tryForm := by
  unfold Grammar.tryForm
  exact .advanceThen meets inside inferInstance

private theorem returnForm_mirrors :
    MirrorsAt L session state true (Same L.detail · ·) g.returnForm h.returnForm := by
  unfold Grammar.returnForm
  exact .advanceThen meets inside inferInstance

omit paired in
private theorem gotoForm_mirrors :
    MirrorsAt L session state true (Same L.detail · ·) (gotoForm : Routine (Tree .statementForm))
      gotoForm := by
  unfold Grammar.gotoForm
  exact .advanceThen meets inside inferInstance

private theorem caseForm_mirrors :
    MirrorsAt L session state true (Same L.detail · ·) g.caseForm h.caseForm := by
  unfold Grammar.caseForm
  exact .advanceThen meets inside inferInstance

omit paired in
private theorem wordForm_mirrors (form : Tree .statementForm) (close : Punctuator)
    (purpose : String) :
    MirrorsAt L session state true (Same L.detail · ·)
      (wordForm form close purpose : Routine (Tree .statementForm)) (wordForm form close purpose) := by
  unfold Grammar.wordForm
  exact .advanceThen meets inside inferInstance

private theorem statementKeyword?_mirrors (word : Keyword) :
    (g.statementKeyword? word = none ∧ h.statementKeyword? word = none) ∨ ∃ routine parser,
      g.statementKeyword? word = some routine ∧ h.statementKeyword? word = some parser ∧
        MirrorsAt L session state true (Same L.detail · ·) routine parser := by
  unfold Grammar.statementKeyword?
  split
  · exact .inr ⟨_, _, rfl, rfl, ifForm_mirrors meets inside⟩
  · exact .inr ⟨_, _, rfl, rfl, whileForm_mirrors meets inside⟩
  · exact .inr ⟨_, _, rfl, rfl, doForm_mirrors meets inside⟩
  · exact .inr ⟨_, _, rfl, rfl, forForm_mirrors meets inside⟩
  · exact .inr ⟨_, _, rfl, rfl, switchForm_mirrors meets inside⟩
  · exact .inr ⟨_, _, rfl, rfl, tryForm_mirrors meets inside⟩
  · exact .inr ⟨_, _, rfl, rfl, returnForm_mirrors meets inside⟩
  · exact .inr ⟨_, _, rfl, rfl, wordForm_mirrors meets inside _ _ _⟩
  · exact .inr ⟨_, _, rfl, rfl, wordForm_mirrors meets inside _ _ _⟩
  · exact .inr ⟨_, _, rfl, rfl, gotoForm_mirrors meets inside⟩
  · exact .inr ⟨_, _, rfl, rfl, caseForm_mirrors meets inside⟩
  · exact .inr ⟨_, _, rfl, rfl, wordForm_mirrors meets inside _ _ _⟩
  · exact .inl ⟨rfl, rfl⟩

end

/-- Both find the same form where they meet, and it reads a token. -/
private theorem statementForm?_mirrors {session : Session} {state : State}
    (meets : L.Meets session state) :
    (g.statementForm? session.state = none ∧ h.statementForm? state = none) ∨ ∃ routine parser,
      g.statementForm? session.state = some routine ∧ h.statementForm? state = some parser ∧
        MirrorsAt L session state true (Same L.detail · ·) routine parser := by
  unfold Grammar.statementForm? State.isAhead
  rw [meets.sees.kind, meets.sees.ahead]
  split
  · rename_i text here
    have place := meets.sees.bare
    refine .inr ⟨_, _, rfl, rfl, .advanceThen meets (State.inside_of_kind here (by simp)) ?_⟩
    infer_instance
  · refine .inr ⟨_, _, rfl, rfl, ?_⟩
    exact (inferInstance : Mirrors L true _ _).mirrors session state meets
  · rename_i here
    exact .inr ⟨_, _, rfl, rfl, .advanceThen meets (State.inside_of_kind here (by simp)) inferInstance⟩
  · rename_i word here
    exact statementKeyword?_mirrors meets (State.inside_of_kind here (by simp)) word
  · rename_i ident here
    split
    · exact .inr ⟨_, _, rfl, rfl, .advanceByThen meets (State.inside_of_kind here (by simp)) 1⟩
    · exact .inl ⟨rfl, rfl⟩
  · exact .inl ⟨rfl, rfl⟩

instance statementRule_mirrors : Mirrors L false g.statementRule h.statementRule := by
  unfold Grammar.statementRule
  refine ⟨.nested (.byPlace fun session state meets => ?_)⟩
  rcases statementForm?_mirrors (g := g) (h := h) meets with
    ⟨left, right⟩ | ⟨routine, parser, left, right, form⟩
  · rw [left, right]
    exact (inferInstance : Mirrors L false _ _).mirrors session state meets
  · rw [left, right]
    have placement : Mirrors L false (startPlacement : Routine Placement) startPlacement :=
      inferInstance
    have places := (placement.mirrors session state meets).1
    refine .lookThen rfl rfl ?_
    refine (form.behindAt meets fun a b forms => ?_).weaken
    refine .ownTrailing (forms.equal Tree.endsInStatement_view) fun comment comment' comments => ?_
    have place := places.withTrailing comments
    exact .of_mirrors (.pure inferInstance)

theorem rule_mirrors (symbol : Symbol) :
    @Mirrors symbol.Value L false symbol.viewed (g.rule symbol) (h.rule symbol) := by
  cases symbol
  case declaration scope =>
    exact (inferInstance : Mirrors L false (g.declarationRule scope) (h.declarationRule scope))
  case statement => exact (inferInstance : Mirrors L false g.statementRule h.statementRule)
  case clause => exact (inferInstance : Mirrors L false g.clauseRule h.clauseRule)
  case assignment => exact (inferInstance : Mirrors L false g.assignmentRule h.assignmentRule)
  case binary level =>
    exact (inferInstance : Mirrors L false (g.binaryRule level) (h.binaryRule level))
  case cast => exact (inferInstance : Mirrors L false g.castRule h.castRule)
  case unary => exact (inferInstance : Mirrors L false g.unaryRule h.unaryRule)
  case specifiers scope =>
    exact (inferInstance : Mirrors L false (g.specifiersRule scope) (h.specifiersRule scope))
  case declarator mode =>
    exact (inferInstance : Mirrors L false (g.declaratorRule mode) (h.declaratorRule mode))
  case name inExpression =>
    exact (inferInstance : Mirrors L false (g.nameRule inExpression) (h.nameRule inExpression))
  case templateParameters =>
    exact (inferInstance : Mirrors L false g.templateParametersRule h.templateParametersRule)

end

theorem derive_mirrors (fuel depth : Nat) (symbol : Symbol) :
    @Mirrors symbol.Value L false symbol.viewed (derive fuel depth symbol)
      (derive fuel depth symbol) := by
  induction depth generalizing symbol with
  | zero => exact @Mirrors.mk _ _ _ symbol.viewed _ _ fun _ _ _ => trivial
  | succ depth ih =>
    have paired : Paired L ⟨fuel, derive fuel depth⟩ ⟨fuel, derive fuel depth⟩ := ⟨rfl, ih⟩
    exact rule_mirrors symbol

instance (fuel : Nat) : Paired L (.ofFuel fuel) (.ofFuel fuel) := ⟨rfl, derive_mirrors fuel fuel⟩

instance translationUnit_mirrors : Mirrors L false g.translationUnit h.translationUnit := by
  unfold Grammar.translationUnit
  refine .andThen fun declarations => ⟨.bySight fun first second sees => .pure ?_⟩
  exact .unit inferInstance sees.closing

end CppSyntax.Grammar
