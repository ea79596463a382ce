import CppSyntax.Proofs.Grammar.Declaration
import CppSyntax.Grammar.Statement

/-!
Statements and whole units answer within the supply.
-/

set_option synthInstance.maxSize 4096

namespace CppSyntax.Grammar

open CppSyntax.Parser

variable {supply : Supply} {rank : Nat}

instance [Below 8 rank] : Answers supply rank Always supply.grammar.declarationStatement := by
  unfold Grammar.declarationStatement
  infer_instance

instance [Below 6 rank] : Answers supply rank Always supply.grammar.expressionStatement := by
  unfold Grammar.expressionStatement
  infer_instance

instance [Below 2 rank] : Answers supply rank Never supply.grammar.declarationStart := by
  unfold Grammar.declarationStart
  infer_instance

instance eitherStatement_answers [Below 2 rank] [Below 6 rank] [Below 8 rank] :
    Answers supply rank Always supply.grammar.eitherStatement := by
  unfold Grammar.eitherStatement
  refine .andThen inferInstance fun ahead => ?_
  dsimp only
  refine .iteOf (.mapThen ?_) (.pureThen ?_)
  · refine .speculateThen inferInstance (fun statement => inferInstance) fun earlier => ?_
    exact .speculateThen inferInstance (fun statement => inferInstance) fun error => inferInstance
  · exact .speculateThen inferInstance (fun statement => inferInstance) fun error => inferInstance

instance declarationOrExpression_answers [Below 2 rank] [Below 6 rank] [Below 8 rank] :
    Answers supply rank Always supply.grammar.declarationOrExpression := by
  unfold Grammar.declarationOrExpression
  refine .andThen inferInstance fun state => ?_
  cases state.statementStart <;> infer_instance

instance : Answers supply 16 Never supply.grammar.condition := by
  unfold Grammar.condition
  infer_instance

instance : Answers supply 16 Never supply.grammar.initAndCondition := by
  unfold Grammar.initAndCondition
  infer_instance

instance : Answers supply rank Always supply.grammar.ifForm := by
  unfold Grammar.ifForm
  infer_instance

instance : Answers supply rank Always supply.grammar.whileForm := by
  unfold Grammar.whileForm
  infer_instance

theorem doForm_at {state : State} (inside : state.atEnd = false) :
    AnswersAt supply rank Always state supply.grammar.doForm := by
  unfold Grammar.doForm
  exact .advance inside inferInstance

instance : Answers supply rank Always supply.grammar.switchForm := by
  unfold Grammar.switchForm
  infer_instance

instance (init : Option Statement) :
    Answers supply 16 Never (supply.grammar.countedHeader init) := by
  unfold Grammar.countedHeader
  infer_instance

instance (init : Option Statement) :
    Answers supply 16 Never (supply.grammar.rangedHeader init) := by
  unfold Grammar.rangedHeader
  infer_instance

instance : Answers supply 16 Never supply.grammar.loopHeader := by
  unfold Grammar.loopHeader
  infer_instance

instance forForm_answers : Answers supply rank Always supply.grammar.forForm := by
  unfold Grammar.forForm
  refine .andThen inferInstance fun _ => ?_
  refine .movingThen inferInstance fun _ => ?_
  refine .andThen inferInstance fun header => ?_
  refine .andThen inferInstance fun _ => ?_
  refine .andThen inferInstance fun body => ?_
  cases header <;> infer_instance

instance : Answers supply 16 Never supply.grammar.handlerParameter := by
  unfold Grammar.handlerParameter
  infer_instance

instance : Answers supply rank Always supply.grammar.handler := by
  unfold Grammar.handler
  infer_instance

instance (handlers : List (Tree .handler)) :
    Answers supply rank GoesOn (supply.grammar.handlerStep handlers) := by
  unfold Grammar.handlerStep
  infer_instance

instance : Answers supply rank Always supply.grammar.tryForm := by
  unfold Grammar.tryForm
  infer_instance

theorem returnForm_at {state : State} (inside : state.atEnd = false) :
    AnswersAt supply rank Always state supply.grammar.returnForm := by
  unfold Grammar.returnForm
  exact .advance inside inferInstance

instance : Answers supply rank Always gotoForm := by
  unfold Grammar.gotoForm
  infer_instance

theorem caseForm_at {state : State} (inside : state.atEnd = false) :
    AnswersAt supply rank Always state supply.grammar.caseForm := by
  unfold Grammar.caseForm
  exact .advance inside inferInstance

instance (form : Tree .statementForm) (close : Punctuator) (purpose : String) :
    Answers supply rank Always (wordForm form close purpose) := by
  unfold Grammar.wordForm
  infer_instance

theorem statementKeyword_at {word : Keyword} {form : Parser (Tree .statementForm)} {state : State}
    (found : supply.grammar.statementKeyword? word = some form) (inside : state.atEnd = false) :
    AnswersAt supply rank Always state form := by
  unfold Grammar.statementKeyword? at found
  split at found <;> cases found
  · exact .anywhere
  · exact .anywhere
  · exact doForm_at inside
  · exact .anywhere
  · exact .anywhere
  · exact .anywhere
  · exact returnForm_at inside
  · exact .anywhere
  · exact .anywhere
  · exact .anywhere
  · exact caseForm_at inside
  · exact .anywhere

theorem statementForm_at {form : Parser (Tree .statementForm)} {state : State}
    (found : supply.grammar.statementForm? state = some form) :
    AnswersAt supply rank Always state form := by
  unfold Grammar.statementForm? at found
  split at found
  · rename_i known
    cases found
    exact .advance (State.inside_of_kind known (by simp)) inferInstance
  · cases found
    exact .anywhere
  · rename_i known
    cases found
    exact .advance (State.inside_of_kind known (by simp)) inferInstance
  · rename_i known
    exact statementKeyword_at found (State.inside_of_kind known (by simp))
  · rename_i known
    split at found
    · cases found
      exact .advanceBy (State.inside_of_kind known (by simp)) inferInstance
    · cases found
  · cases found

instance statementRule_answers : Answers supply 9 Always supply.grammar.statementRule := by
  unfold Grammar.statementRule
  refine @Answers.nested _ _ _ _ _ <| .byPlace fun state => ?_
  split
  · exact .anywhere
  · rename_i form found
    refine .lookThen (fun context => rfl) ?_
    exact .movingThen (statementForm_at found) fun form => inferInstance

end CppSyntax.Grammar
