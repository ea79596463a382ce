import CppSyntax.Proofs.Gathering.Grammar.Specifier
import CppSyntax.Grammar.Template

/-!
Declarators and the parameters of functions and templates. A declarator that must have a name has read
the token of that name.
-/

set_option synthInstance.maxSize 4096

namespace CppSyntax.Grammar

open CppSyntax.Parser

variable {g : Grammar Parser} [g.Gathering]

instance exceptionSpec_collects : Collects g.exceptionSpec := by
  unfold Grammar.exceptionSpec
  exact .closed .fresh inferInstance

instance defaultValue_collects : Collects g.defaultValue := by
  unfold Grammar.defaultValue
  exact .closed .fresh inferInstance

instance parameter_collects : Collects g.parameter := by
  unfold Grammar.parameter
  exact .closed .fresh inferInstance

instance parameterItems_collects : Collects g.parameterItems := by
  unfold Grammar.parameterItems
  exact .closed .fresh inferInstance

instance parameterList_finishes : Finishes g.parameterList := by
  unfold Grammar.parameterList
  exact .closed .fresh inferInstance

instance {found : FunctionQualifiers} {given before : List Piece}
    [made : Makes given (before ++ piecesIn found)] :
    Makes given (before ++ piecesIn found.exception) :=
  made

instance {cv : Qualifiers} {reference : Option ReferenceQualifier}
    {exception : Option (Tree .exceptionSpec)} {given before : List Piece}
    [made : Makes given (before ++ piecesIn exception)] :
    Makes given (before ++ piecesIn (FunctionQualifiers.mk cv reference exception)) :=
  made

instance functionQualifiers_collects : Collects g.functionQualifiers := by
  unfold Grammar.functionQualifiers
  exact .closed .fresh inferInstance

instance trailingResult_collects : Collects g.trailingResult := by
  unfold Grammar.trailingResult
  exact .closed .fresh inferInstance

instance signature_finishes : Finishes g.signature := by
  unfold Grammar.signature
  exact .closed .fresh inferInstance

instance parameterListAhead_collects : Collects g.parameterListAhead := by
  unfold Grammar.parameterListAhead
  refine .closed .fresh (.byPlace fun state => ?_)
  split <;> infer_instance

instance arraySize_collects : Collects g.arraySize := by
  unfold Grammar.arraySize
  exact .closed .fresh inferInstance

instance declaratorSuffixes_collects (mode : DeclaratorMode) : Collects (g.declaratorSuffixes mode) := by
  unfold Grammar.declaratorSuffixes
  exact .closed .fresh inferInstance

instance bindingNames_finishes : Finishes g.bindingNames := by
  unfold Grammar.bindingNames
  exact .closed .fresh inferInstance

instance declaratorCore_gathers (mode : DeclaratorMode) :
    Gathers [] mode.stretch piecesIn (g.declaratorCore mode) := by
  unfold Grammar.declaratorCore
  cases mode with
  | named =>
    refine .closed .fresh (.byPlace fun state => ?_)
    split
    · infer_instance
    split
    · infer_instance
    · have named : (DeclaratorMode.named == .named) = true := rfl
      rw [named]
      infer_instance
  | maybeNamed | unnamed | pointersOnly => exact .closed .fresh inferInstance

instance declaratorRule_gathers (mode : DeclaratorMode) :
    Gathers [] mode.stretch piecesIn (g.declaratorRule mode) := by
  unfold Grammar.declaratorRule
  cases mode with
  | named =>
    refine .oneDeeper (.closed .fresh (.next fun pointers => ?_))
    have named : (DeclaratorMode.named == .pointersOnly) = false := rfl
    rw [named]
    infer_instance
  | maybeNamed | unnamed | pointersOnly =>
    exact .oneDeeper (.closed .fresh inferInstance)

instance typeParameterKey_collects : Collects (typeParameterKey : Parser TypeParameterKey) := by
  unfold Grammar.typeParameterKey
  exact .closed .fresh inferInstance

instance templateTemplateParameter_collects : Collects g.templateTemplateParameter := by
  unfold Grammar.templateTemplateParameter
  exact .closed .fresh inferInstance

instance typeParameter_collects : Collects g.typeParameter := by
  unfold Grammar.typeParameter
  exact .closed .fresh inferInstance

instance templateParameter_collects : Collects g.templateParameter := by
  unfold Grammar.templateParameter
  exact .closed .fresh inferInstance

instance templateParametersRule_collects : Collects g.templateParametersRule := by
  unfold Grammar.templateParametersRule
  exact .closed .fresh inferInstance

end CppSyntax.Grammar
