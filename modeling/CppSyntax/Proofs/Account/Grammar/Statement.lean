import CppSyntax.Proofs.Account.Grammar.Declaration
import CppSyntax.Grammar.Statement

/-!
Statements and conditions. Where a statement can be read neither as a declaration nor as an
expression, both errors tell of the place, and so does the one that counts.
-/

set_option synthInstance.maxSize 4096

namespace CppSyntax

open CppSyntax.Parser

variable {place : State} {known : List String}

namespace Grammar

variable {g : Grammar Parser} [accountable : g.Accountable]

instance asStatement_known {inner : Declaration} [holds : Known inner known] :
    Known inner.asStatement known := by
  cases inner with
  | declaration start form =>
    have same : (Tree.declaration start form).typeNames ⊆ known := Known.tree_iff.mp holds
    exact Known.tree_iff.mpr same

instance : Accounts place known g.declarationStatement := by
  unfold Grammar.declarationStatement
  infer_instance

instance : Accounts place known g.expressionStatement := by
  unfold Grammar.expressionStatement
  infer_instance

/-- What is done after the trial of a declaration, which may have failed with an error. -/
theorem evaluated_accounts (declared : Option (Except SyntaxError Statement))
    (tells : ∀ error, declared = some (.error error) → error.TellsOf place) :
    Accounts place known (do
      match ← speculate g.expressionStatement, declared with
      | .ok statement, _ => return statement
      | .error error, some (.error earlier) => failWith (earlier.further error)
      | .error error, _ => failWith error : Parser Statement) := by
  refine .speculateThen inferInstance (fun value => inferInstance) fun error located => ?_
  rcases declared with _ | (earlier | statement)
  · infer_instance
  · have located := tells earlier rfl
    infer_instance
  · infer_instance

instance eitherStatement_accounts : Accounts place known g.eitherStatement := by
  unfold Grammar.eitherStatement
  refine .andThenPlain inferInstance fun ahead => ?_
  dsimp only
  split
  · rw [Parser.map_bind]
    refine .speculateThen inferInstance (fun value => inferInstance) fun error located => ?_
    refine evaluated_accounts (some (.error error)) ?_
    rintro _ ⟨⟩
    exact located
  · exact evaluated_accounts none nofun

instance declarationOrExpression_accounts : Accounts place known g.declarationOrExpression := by
  unfold Grammar.declarationOrExpression
  refine .byPlace fun there => ?_
  split <;> infer_instance

instance : Accounts place known g.condition := by
  unfold Grammar.condition
  infer_instance

instance : Accounts place known g.initAndCondition := by
  unfold Grammar.initAndCondition
  infer_instance

instance : Accounts place known g.ifForm := by
  unfold Grammar.ifForm
  infer_instance

instance : Accounts place known g.whileForm := by
  unfold Grammar.whileForm
  infer_instance

instance : Accounts place known g.doForm := by
  unfold Grammar.doForm
  infer_instance

instance : Accounts place known g.switchForm := by
  unfold Grammar.switchForm
  infer_instance

instance {init : Option Statement} {test : Option (Tree .condition)} {step : Option Expr}
    [Known init known] [Known test known] [Known step known] :
    Known (LoopHeader.counted init test step) known :=
  ⟨(inferInstance : Known (init, test, step) known).subset⟩

instance (init : Option Statement) [Known init known] :
    Accounts place known (g.countedHeader init) := by
  unfold Grammar.countedHeader
  infer_instance

instance {init : Option Statement} {element : Declaration} {range : Expr}
    [Known init known] [Known element known] [Known range known] :
    Known (LoopHeader.ranged init element range) known :=
  ⟨(inferInstance : Known (init, Tree.declarationStatement element, range) known).subset⟩

instance (init : Option Statement) [Known init known] :
    Accounts place known (g.rangedHeader init) := by
  unfold Grammar.rangedHeader
  infer_instance

instance : Accounts place known g.loopHeader := by
  unfold Grammar.loopHeader
  infer_instance

instance forForm_accounts : Accounts place known g.forForm := by
  unfold Grammar.forForm
  refine .andThenPlain inferInstance fun _ => .andThenPlain inferInstance fun _ => ?_
  refine .andThen inferInstance fun header => .andThenPlain inferInstance fun _ => ?_
  refine .andThen inferInstance fun body => ?_
  cases header with
  | counted init test step =>
    have all : Known (init, test, step) (known ++ namesIn (LoopHeader.counted init test step)) :=
      ⟨List.subset_append_right ..⟩
    obtain ⟨ofInit, rest⟩ := Known.pair_iff.mp all
    obtain ⟨ofTest, ofStep⟩ := Known.pair_iff.mp rest
    infer_instance
  | ranged init element range =>
    have all : Known (init, Tree.declarationStatement element, range)
        (known ++ namesIn (LoopHeader.ranged init element range)) := ⟨List.subset_append_right ..⟩
    obtain ⟨ofInit, rest⟩ := Known.pair_iff.mp all
    obtain ⟨ofElement, ofRange⟩ := Known.pair_iff.mp rest
    have same : (Tree.declarationStatement element).typeNames ⊆ _ := Known.tree_iff.mp ofElement
    have ofElement : Known element _ := Known.tree_iff.mpr same
    infer_instance

instance : Accounts place known g.handlerParameter := by
  unfold Grammar.handlerParameter
  infer_instance

instance : Accounts place known g.handler := by
  unfold Grammar.handler
  infer_instance

instance (handlers : List (Tree .handler)) [Known handlers known] :
    Accounts place known (g.handlerStep handlers) := by
  unfold Grammar.handlerStep
  infer_instance

instance : Accounts place known g.tryForm := by
  unfold Grammar.tryForm
  infer_instance

instance : Accounts place known g.returnForm := by
  unfold Grammar.returnForm
  infer_instance

instance : Accounts place known (gotoForm : Parser (Tree .statementForm)) := by
  unfold Grammar.gotoForm
  infer_instance

instance : Accounts place known g.caseForm := by
  unfold Grammar.caseForm
  infer_instance

instance (form : Tree .statementForm) [Known form known] (close : Punctuator) (purpose : String) :
    Accounts place known (wordForm form close purpose : Parser (Tree .statementForm)) := by
  unfold Grammar.wordForm
  infer_instance

theorem statementKeyword_accounts {word : Keyword} {form : Parser (Tree .statementForm)}
    (found : g.statementKeyword? word = some form) : Accounts place known form := by
  unfold Grammar.statementKeyword? at found
  split at found <;> cases found <;> infer_instance

theorem statementForm_accounts {form : Parser (Tree .statementForm)} {state : State}
    (found : g.statementForm? state = some form) : Accounts place known form := by
  unfold Grammar.statementForm? at found
  split at found
  · cases found
    infer_instance
  · cases found
    infer_instance
  · cases found
    infer_instance
  · exact statementKeyword_accounts found
  · split at found
    · cases found
      infer_instance
    · cases found
  · cases found

instance statementRule_accounts : Accounts place known g.statementRule := by
  unfold Grammar.statementRule
  refine @AccountsFor.nested _ _ _ _ _ (.byPlace fun there => ?_)
  split
  · infer_instance
  · rename_i form found
    have accounts : Accounts place known form := statementForm_accounts found
    infer_instance

end Grammar

end CppSyntax
