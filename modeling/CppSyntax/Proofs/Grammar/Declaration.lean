import CppSyntax.Proofs.Grammar.Operand
import CppSyntax.Grammar.Declaration

/-!
Declarations and templates answer within the supply.
-/

set_option synthInstance.maxSize 4096

namespace CppSyntax.Grammar

open CppSyntax.Parser

variable {supply : Supply} {rank : Nat}

instance : Answers supply rank Never supply.grammar.namespacePath := by
  unfold Grammar.namespacePath
  infer_instance

instance namespaceForm_answers (isInline : Bool) :
    Answers supply rank Always (supply.grammar.namespaceForm isInline) := by
  unfold Grammar.namespaceForm
  refine .movingThen inferInstance fun _ => ?_
  refine .andThen inferInstance fun path => ?_
  rcases path with _ | ⟨ident, _ | ⟨second, rest⟩⟩ <;> infer_instance

instance : Answers supply rank Always supply.grammar.aliasForm := by
  unfold Grammar.aliasForm
  infer_instance

instance : Answers supply rank Always supply.grammar.usingForm := by
  unfold Grammar.usingForm
  infer_instance

instance [Below 8 rank] (scope : Scope) (purpose : String) :
    Answers supply rank Always (supply.grammar.requiredDeclaration scope purpose) := by
  unfold Grammar.requiredDeclaration
  infer_instance

instance (scope : Scope) : Answers supply rank Always (supply.grammar.templateForm scope) := by
  unfold Grammar.templateForm
  infer_instance

theorem linkageForm_at (abi : String) {state : State} (inside : state.atEnd = false) :
    AnswersAt supply rank Always state (supply.grammar.linkageForm abi) := by
  unfold Grammar.linkageForm
  exact .advanceBy inside inferInstance

instance : Answers supply 16 Never supply.grammar.assertedClauses := by
  unfold Grammar.assertedClauses
  infer_instance

instance : Answers supply rank Always supply.grammar.staticAssertForm := by
  unfold Grammar.staticAssertForm
  infer_instance

instance virtualWords_answers : Answers supply rank Never supply.grammar.virtualWords := by
  unfold Grammar.virtualWords
  refine .loopOf fun (isOverride, isFinal) => ?_
  infer_instance

instance : Answers supply 16 Never supply.grammar.memberInit := by
  unfold Grammar.memberInit
  infer_instance

instance : Answers supply 16 Never assignedBody := by
  unfold Grammar.assignedBody
  infer_instance

instance : Answers supply rank Always supply.grammar.functionBody := by
  unfold Grammar.functionBody
  infer_instance

instance (specs : ParsedSpecifiers) (pointers : Trees .pointerOperator) (title : Name)
    (sig : Tree .signature) :
    Answers supply rank Always (supply.grammar.functionForm specs pointers title sig) := by
  unfold Grammar.functionForm
  infer_instance

instance : Answers supply rank Never supply.grammar.initializer := by
  unfold Grammar.initializer
  infer_instance

instance [Below 2 rank] (scope : Scope) :
    Answers supply rank Never (supply.grammar.memberDeclarator scope) := by
  unfold Grammar.memberDeclarator
  infer_instance

instance (scope : Scope) : Answers supply rank Never (supply.grammar.bitWidth scope) := by
  unfold Grammar.bitWidth
  infer_instance

instance initDeclarators_answers (scope : Scope) (first : Declarator) :
    Answers supply rank Never (supply.grammar.initDeclarators scope first) := by
  unfold Grammar.initDeclarators
  refine .loopOf fun (found, shape) => ?_
  infer_instance

instance (specs : ParsedSpecifiers) (first : Declarator) :
    Answers supply rank Always (supply.grammar.typedefForm specs first) := by
  unfold Grammar.typedefForm
  infer_instance

instance (scope : Scope) (specs : ParsedSpecifiers) (first : Declarator) :
    Answers supply rank Always (supply.grammar.variableForm scope specs first) := by
  unfold Grammar.variableForm
  infer_instance

instance simpleForm_answers (scope : Scope) :
    Answers supply 8 Always (supply.grammar.simpleForm scope) := by
  unfold Grammar.simpleForm
  refine .andThen inferInstance fun specs => ?_
  refine @Answers.acceptBranch _ _ _ _ _ _ _ inferInstance ?_
  refine .andThen inferInstance fun first => ?_
  refine .iteOf inferInstance ?_
  cases first.asFunction? <;> infer_instance

theorem keywordForm_at (scope : Scope) (word : Keyword) {state : State}
    (inside : state.atEnd = false) :
    AnswersAt supply 8 Always state (supply.grammar.keywordForm scope word) := by
  unfold Grammar.keywordForm
  refine .here ?_
  split
  · exact .anywhere
  · exact .advance inside inferInstance
  · exact .anywhere
  · exact .anywhere
  · exact linkageForm_at _ inside
  · exact .anywhere
  · split
    · exact .advance inside inferInstance
    · exact .anywhere

instance declarationForm_answers (scope : Scope) :
    Answers supply 8 Always (supply.grammar.declarationForm scope) := by
  unfold Grammar.declarationForm
  refine .byPlace fun state => ?_
  split
  · rename_i known
    exact .advance (State.inside_of_kind known nofun) inferInstance
  · rename_i known
    exact keywordForm_at _ _ (State.inside_of_kind known nofun)
  · exact .anywhere

instance (scope : Scope) : Answers supply 8 Always (supply.grammar.declarationRule scope) := by
  unfold Grammar.declarationRule
  infer_instance

instance [Below 2 rank] : Answers supply rank Never supply.grammar.loneSpecifiers := by
  unfold Grammar.loneSpecifiers
  infer_instance

instance conditionDeclaration_answers [Below 2 rank] :
    Answers supply rank Never supply.grammar.conditionDeclaration := by
  unfold Grammar.conditionDeclaration
  refine .andThen inferInstance fun place => ?_
  refine .andThen inferInstance fun specs => ?_
  refine .andThen inferInstance fun shape => ?_
  refine .andThen inferInstance fun init => ?_
  rcases init with _ | init
  · infer_instance
  · cases init <;> infer_instance

instance [Below 2 rank] : Answers supply rank Never supply.grammar.rangeDeclaration := by
  unfold Grammar.rangeDeclaration
  infer_instance

end CppSyntax.Grammar
