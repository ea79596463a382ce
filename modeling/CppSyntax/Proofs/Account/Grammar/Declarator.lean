import CppSyntax.Proofs.Account.Grammar.Specifier
import CppSyntax.Grammar.Template

/-!
Declarators and the parameters of functions and templates. The names of template parameters are known
only behind the list; within it each parameter accounts for the rest of what it introduces.
-/

set_option synthInstance.maxSize 4096

namespace CppSyntax.Grammar

open CppSyntax.Parser

variable {g : Grammar Parser} [g.Accountable] {place : State} {known : List String}

instance : Accounts place known g.exceptionSpec := by
  unfold Grammar.exceptionSpec
  infer_instance

instance : Accounts place known g.defaultValue := by
  unfold Grammar.defaultValue
  infer_instance

instance : Accounts place known g.parameter := by
  unfold Grammar.parameter
  infer_instance

instance : Accounts place known g.parameterItems := by
  unfold Grammar.parameterItems
  infer_instance

instance : Accounts place known g.parameterList := by
  unfold Grammar.parameterList
  infer_instance

instance {found : FunctionQualifiers} [holds : Known found known] : Known found.exception known :=
  ⟨holds.subset⟩

instance {cv : Qualifiers} {reference : Option ReferenceQualifier}
    {exception : Option (Tree .exceptionSpec)} [holds : Known exception known] :
    Known (FunctionQualifiers.mk cv reference exception) known :=
  ⟨holds.subset⟩

instance : Accounts place known g.functionQualifiers := by
  unfold Grammar.functionQualifiers
  infer_instance

instance : Accounts place known g.trailingResult := by
  unfold Grammar.trailingResult
  infer_instance

instance : Accounts place known g.signature := by
  unfold Grammar.signature
  infer_instance

instance parameterListAhead_accounts : Accounts place known g.parameterListAhead := by
  unfold Grammar.parameterListAhead
  refine .byPlace fun there => ?_
  split <;> infer_instance

instance : Accounts place known g.arraySize := by
  unfold Grammar.arraySize
  infer_instance

instance (mode : DeclaratorMode) : Accounts place known (g.declaratorSuffixes mode) := by
  unfold Grammar.declaratorSuffixes
  infer_instance

instance : Accounts place known g.bindingNames := by
  unfold Grammar.bindingNames
  infer_instance

instance (mode : DeclaratorMode) : Accounts place known (g.declaratorCore mode) := by
  unfold Grammar.declaratorCore
  infer_instance

instance (mode : DeclaratorMode) : Accounts place known (g.declaratorRule mode) := by
  unfold Grammar.declaratorRule
  infer_instance

/-- The names that the parts of a template parameter introduce; its own name is not known yet. -/
def partNames (param : Tree .templateParameter) : List String := Node.typeNames param.parts

instance {param : Tree .templateParameter} [below : AllKnown param.parts known] :
    AccountsFor partNames place known (pure param : Parser (Tree .templateParameter)) :=
  .answer below.subset

instance : Accounts place known (typeParameterKey : Parser TypeParameterKey) := by
  unfold Grammar.typeParameterKey
  infer_instance

instance : AccountsFor partNames place known g.templateTemplateParameter := by
  unfold Grammar.templateTemplateParameter
  infer_instance

instance : AccountsFor partNames place known g.typeParameter := by
  unfold Grammar.typeParameter
  infer_instance

instance : AccountsFor partNames place known g.templateParameter := by
  unfold Grammar.templateParameter
  infer_instance

theorem ownTypeNames_parameter (param : Tree .templateParameter) :
    param.ownTypeNames = param.parameterTypeName?.toList := by
  cases param <;> rfl

/-- Behind the list the names of all its parameters are known, their own ones included. -/
theorem parameters_known (params : List (Tree .templateParameter)) :
    Known params (params.flatMap partNames ++ params.filterMap (·.parameterTypeName?)) := by
  refine ⟨fun ident member => ?_⟩
  obtain ⟨root, among, inside⟩ := List.mem_flatMap.mp member
  obtain ⟨param, listed, isRoot⟩ := List.mem_flatMap.mp among
  obtain rfl := List.mem_singleton.mp isRoot
  have split : param.typeNames ⊆ param.ownTypeNames ++ partNames param :=
    Tree.typeNames_subset (List.subset_append_left ..) (List.subset_append_right ..)
  rw [ownTypeNames_parameter] at split
  rcases List.mem_append.mp (split inside) with own | below
  · refine List.mem_append_right _ (List.mem_filterMap.mpr ⟨param, listed, ?_⟩)
    exact Option.mem_toList.mp own
  · exact List.mem_append_left _ (List.mem_flatMap.mpr ⟨param, listed, below⟩)

instance templateParametersRule_accounts : Accounts place known g.templateParametersRule := by
  unfold Grammar.templateParametersRule
  have listed : AccountsFor (List.flatMap partNames) place known (angleCloses true do
      if (← here).isAt .greater then return [] else g.separated g.templateParameter : Parser _) := by
    have items : AccountsFor (List.flatMap partNames) place known (g.separated g.templateParameter) :=
      separated_names fun _ => inferInstance
    have none : AccountsFor (List.flatMap partNames) place known
        (pure [] : Parser (List (Tree .templateParameter))) := .answer (List.nil_subset _)
    infer_instance
  refine .andThenPlain inferInstance fun _ => .andThenOf listed fun params => ?_
  refine .andThenPlain inferInstance fun _ => .declaredThen (AccountsFor.declareTypes_reply _) ?_
  refine .answer ?_
  rw [List.append_assoc]
  exact List.subset_append_of_subset_right _ (parameters_known params).subset

end CppSyntax.Grammar
