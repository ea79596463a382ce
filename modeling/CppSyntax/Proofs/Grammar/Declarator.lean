import CppSyntax.Proofs.Grammar.Specifier
import CppSyntax.Grammar.Template

/-!
Declarators, parameters and type ids answer within the supply.
-/

set_option synthInstance.maxSize 4096

namespace CppSyntax.Grammar

open CppSyntax.Parser

variable {supply : Supply} {rank : Nat}

instance : Answers supply rank Always supply.grammar.exceptionSpec := by
  unfold Grammar.exceptionSpec
  infer_instance

instance : Answers supply rank Never supply.grammar.defaultValue := by
  unfold Grammar.defaultValue
  infer_instance

instance [Below 2 rank] : Answers supply rank Never supply.grammar.parameter := by
  unfold Grammar.parameter
  infer_instance

instance : Answers supply 16 Never supply.grammar.parameterItems := by
  unfold Grammar.parameterItems
  infer_instance

instance : Answers supply rank Always supply.grammar.parameterList := by
  unfold Grammar.parameterList
  infer_instance

instance : Answers supply rank Never supply.grammar.functionQualifiers := by
  unfold Grammar.functionQualifiers
  infer_instance

instance : Answers supply rank Never supply.grammar.trailingResult := by
  unfold Grammar.trailingResult
  infer_instance

instance : Answers supply rank Always supply.grammar.signature := by
  unfold Grammar.signature
  infer_instance

theorem parameterStart_at {state : State} (inside : state.atEnd = false) :
    AnswersAt supply rank Never state supply.grammar.parameterStart := by
  unfold Grammar.parameterStart
  exact .advance inside inferInstance

theorem parameterListAhead_at {state : State} (inside : state.atEnd = false) :
    AnswersAt supply rank Never state supply.grammar.parameterListAhead := by
  unfold Grammar.parameterListAhead
  refine .here ?_
  split
  · exact .anywhere
  · exact .anywhere
  · exact .anywhere
  · exact .anywhere
  · exact .andThen (.lookahead (parameterStart_at inside)) fun found => inferInstance
  · exact .andThen (.lookahead (parameterStart_at inside)) fun found => inferInstance
  · exact .anywhere

instance : Answers supply 16 Never supply.grammar.arraySize := by
  unfold Grammar.arraySize
  infer_instance

instance declaratorSuffixes_answers (mode : DeclaratorMode) :
    Answers supply rank Never (supply.grammar.declaratorSuffixes mode) := by
  unfold Grammar.declaratorSuffixes
  refine .loopOf fun found => .byPlace fun state => ?_
  dsimp only
  split
  · rename_i bracket
    simp only [Bool.and_eq_true] at bracket
    exact .advance (State.inside_of_isAt bracket.1) inferInstance
  · split
    · rename_i opened
      exact .andThen (parameterListAhead_at (State.inside_of_isAt opened)) fun ahead => inferInstance
    · exact .anywhere

instance : Answers supply rank Always supply.grammar.bindingNames := by
  unfold Grammar.bindingNames
  infer_instance

instance declaratorCore_answers (mode : DeclaratorMode) :
    Answers supply 2 Never (supply.grammar.declaratorCore mode) := by
  unfold Grammar.declaratorCore
  refine .byPlace fun state => ?_
  dsimp only
  split
  · rename_i nested
    simp only [State.atNestedDeclarator, Bool.and_eq_true] at nested
    exact .advance (State.inside_of_isAt nested.1) inferInstance
  · exact .anywhere

instance (mode : DeclaratorMode) :
    Answers supply 2 Never (supply.grammar.declaratorRule mode) := by
  unfold Grammar.declaratorRule
  infer_instance

instance : Answers supply rank Always typeParameterKey := by
  unfold Grammar.typeParameterKey
  infer_instance

theorem templateTemplateParameter_at {state : State} (inside : state.atEnd = false) :
    AnswersAt supply rank Never state supply.grammar.templateTemplateParameter := by
  unfold Grammar.templateTemplateParameter
  exact .advance inside inferInstance

instance : Answers supply rank Never supply.grammar.typeParameter := by
  unfold Grammar.typeParameter
  infer_instance

instance templateParameter_answers : Answers supply 16 Never supply.grammar.templateParameter := by
  unfold Grammar.templateParameter
  refine .byPlace fun state => ?_
  split
  · rename_i marked
    exact templateTemplateParameter_at (State.inside_of_isAtWord marked)
  · exact .anywhere

instance : Answers supply 0 Never supply.grammar.templateParametersRule := by
  unfold Grammar.templateParametersRule
  infer_instance

end CppSyntax.Grammar
