import CppSyntax.Proofs.WellFormed.Grammar.Declaration
import CppSyntax.Grammar.Statement

/-!
Statements and conditions. No declaration among them is one that only a class may hold.
-/

set_option synthInstance.maxSize 4096

namespace CppSyntax.Grammar

open CppSyntax.Parser

variable {g : Grammar Parser} [sound : g.Sound]

omit sound in
theorem fine_asStatement {inner : Declaration} (fine : Fine inner) (free : ¬ inner.isMemberOnly) :
    Fine inner.asStatement := by
  cases inner with
  | declaration place form =>
    have fine : Fine form := (Fine.cons_iff.mp fine.parts).1
    have fits : Holds (Tree.declarationStatement
        (.declaration (.bare place.location) form)).Fits := ⟨free⟩
    unfold Tree.asStatement
    infer_instance

instance declarationStatement_yields : Yields g.declarationStatement := by
  refine ⟨.here fun place _ => .bind (declaration_keeps .inBlock).anywhere fun found => ?_⟩
  cases found with
  | none => exact .pure fun _ _ => inferInstance
  | some inner =>
    refine .assume fun suits => .pure fun _ _ => ?_
    obtain ⟨fine, free⟩ := suits inner rfl
    exact fine_asStatement fine (free nofun)

instance : Yields g.expressionStatement := by
  unfold Grammar.expressionStatement
  infer_instance

instance eitherStatement_yields : Yields g.eitherStatement := by
  have evaluated (declared : Option (Except SyntaxError Statement)) : Yields (do
      match ← speculate g.expressionStatement, declared with
      | .ok statement, _ => return statement
      | .error error, some (.error earlier) => failWith (earlier.further error)
      | .error error, _ => failWith error : Parser Statement) := by
    refine .andThen inferInstance fun ⟨result, fine⟩ => ?_
    cases result with
    | ok statement =>
      have fine := Fine.ok_iff.mp fine
      infer_instance
    | error error =>
      rcases declared with _ | (earlier | statement) <;> infer_instance
  have later (declared : Good (Option (Except SyntaxError Statement))) : Yields (
      match declared.value with
      | some (.ok statement) => return statement
      | _ => do
        match ← speculate g.expressionStatement, declared.value with
        | .ok statement, _ => return statement
        | .error error, some (.error earlier) => failWith (earlier.further error)
        | .error error, _ => failWith error : Parser Statement) := by
    obtain ⟨declared, fine⟩ := declared
    rcases declared with _ | (error | statement)
    · exact evaluated none
    · exact evaluated (some (.error error))
    · have fine := Fine.ok_iff.mp (Fine.some_iff.mp fine)
      infer_instance
  unfold Grammar.eitherStatement
  refine .andThen inferInstance fun ahead => ?_
  dsimp only
  split
  · exact .andThen inferInstance later
  · exact .andThen inferInstance later

instance declarationOrExpression_yields : Yields g.declarationOrExpression := by
  unfold Grammar.declarationOrExpression
  refine .andThen inferInstance fun state => ?_
  split <;> infer_instance

instance condition_yields : Yields g.condition := by
  refine ⟨.bind (.attempted conditionDeclaration_keeps) fun found => ?_⟩
  cases found with
  | none => exact .bind (Yields.from_places _) fun value => .pure fun _ fine => inferInstance
  | some inner =>
    refine .assume fun keeps => ?_
    obtain ⟨fine, free⟩ := keeps inner rfl
    have fits : Holds (Tree.testDeclaration inner).Fits := ⟨free⟩
    exact .pure fun _ _ => inferInstance

instance : Yields g.initAndCondition := by
  unfold Grammar.initAndCondition
  infer_instance

instance : Yields g.ifForm := by
  unfold Grammar.ifForm
  infer_instance

instance : Yields g.whileForm := by
  unfold Grammar.whileForm
  infer_instance

instance : Yields g.doForm := by
  unfold Grammar.doForm
  infer_instance

instance : Yields g.switchForm := by
  unfold Grammar.switchForm
  infer_instance

instance {init : Option Statement} {test : Option (Tree .condition)} {step : Option Expr} [Fine init]
    [Fine test] [Fine step] : Fine (LoopHeader.counted init test step) :=
  ⟨(inferInstance : Fine (init, test, step)).sound⟩

instance {init : Option Statement} [Fine init] : Yields (g.countedHeader init) := by
  unfold Grammar.countedHeader
  infer_instance

instance rangedHeader_yields {init : Option Statement} [Fine init] : Yields (g.rangedHeader init) := by
  refine ⟨.bind rangeDeclaration_keeps fun element => .assume fun ⟨fine, free⟩ => ?_⟩
  refine .bind .anything fun _ => .bind (Yields.from_places _) fun range => .pure fun _ fineRange => ?_
  have fits : Holds (Tree.declarationStatement element).Fits := ⟨free⟩
  exact ⟨(inferInstance : Fine (init, Tree.declarationStatement element, range)).sound⟩

instance : Yields g.loopHeader := by
  unfold Grammar.loopHeader
  infer_instance

instance forForm_yields : Yields g.forForm := by
  unfold Grammar.forForm
  refine .andThen inferInstance fun _ => .andThen inferInstance fun _ => ?_
  refine .andThen inferInstance fun ⟨header, fine⟩ => .andThen inferInstance fun _ => ?_
  refine .andThen inferInstance fun body => ?_
  cases header with
  | counted init test step =>
    obtain ⟨fineInit, fineRest⟩ := Fine.pair_iff.mp (⟨fine.sound⟩ : Fine (init, test, step))
    obtain ⟨fineTest, fineStep⟩ := Fine.pair_iff.mp fineRest
    infer_instance
  | ranged init element range =>
    obtain ⟨fineInit, fineRest⟩ := Fine.pair_iff.mp
      (⟨fine.sound⟩ : Fine (init, Tree.declarationStatement element, range))
    obtain ⟨fineElement, fineRange⟩ := Fine.pair_iff.mp fineRest
    have free : Holds (Tree.rangeFor (.ofOption init) element range body.value).Fits :=
      ⟨fineElement.fits⟩
    have fine := (Fine.cons_iff.mp fineElement.parts).1
    infer_instance

instance : Yields g.handlerParameter := by
  unfold Grammar.handlerParameter
  infer_instance

instance : Yields g.handler := by
  unfold Grammar.handler
  infer_instance

instance (handlers : Good (List (Tree .handler))) : Yields (g.handlerStep handlers.value) := by
  unfold Grammar.handlerStep
  infer_instance

instance tryForm_yields : Yields g.tryForm := by
  unfold Grammar.tryForm
  refine .andThen inferInstance fun _ => .andThen inferInstance fun body => ?_
  refine .andThen inferInstance fun handlers => ?_
  dsimp only
  split
  · infer_instance
  · rename_i nonempty
    have fits : Holds (Tree.tryStatement body.value (.ofList handlers.value)).Fits :=
      ⟨by simpa using nonempty⟩
    infer_instance

instance : Yields g.returnForm := by
  unfold Grammar.returnForm
  infer_instance

instance : Yields gotoForm := by
  unfold Grammar.gotoForm
  infer_instance

instance : Yields g.caseForm := by
  unfold Grammar.caseForm
  infer_instance

instance {form : Tree .statementForm} [Fine form] (close : Punctuator) (purpose : String) :
    Yields (wordForm form close purpose) := by
  unfold Grammar.wordForm
  infer_instance

theorem statementKeyword_yields {word : Keyword} {form : Parser (Tree .statementForm)}
    (found : g.statementKeyword? word = some form) : Yields form := by
  unfold Grammar.statementKeyword? at found
  split at found <;> cases found <;> infer_instance

theorem statementForm_yields {form : Parser (Tree .statementForm)} {state : State}
    (found : g.statementForm? state = some form) : Yields form := by
  unfold Grammar.statementForm? at found
  split at found
  · rename_i text known
    cases found
    have fits : Holds (Tree.declarationStatement
        (.declaration (.bare state.current.location) (.directive text))).Fits := ⟨nofun⟩
    infer_instance
  · cases found
    infer_instance
  · cases found
    infer_instance
  · exact statementKeyword_yields found
  · split at found
    · cases found
      infer_instance
    · cases found
  · cases found

instance statementRule_yields : Yields g.statementRule := by
  unfold Grammar.statementRule
  refine @Yields.nested _ _ _ (.andThen inferInstance fun place => ?_)
  split
  · infer_instance
  · rename_i form found
    have yields : Yields form := statementForm_yields found
    infer_instance

end CppSyntax.Grammar
