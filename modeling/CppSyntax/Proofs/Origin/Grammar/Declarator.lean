import CppSyntax.Proofs.Origin.Grammar.Specifier
import CppSyntax.Proofs.Account.Grammar.Declarator

/-!
Declarators and the parameters of functions and templates. An exception specification makes nothing
known where no types stand apart, so that nothing is lost when a later one takes its place. The names of
template parameters become known behind the list, which introduces them.
-/

set_option synthInstance.maxSize 4096

namespace CppSyntax.Grammar

open CppSyntax.Parser

variable {g : Grammar Parser} [g.Introducing]

/-- No exception specification has an operand. -/
instance exceptionSpec_silent : Silent g.exceptionSpec := by
  unfold Grammar.exceptionSpec
  have noexcept : (TokenKind.keyword .kwNoexcept).standsApart (.punctuator .leftParen) = true := rfl
  have throws : (TokenKind.keyword .kwThrow).standsApart (.punctuator .leftParen) = true := rfl
  refine .acceptFirst noexcept ?_ (.requireFirst throws IntroducesFor.requireSecond)
  exact IntroducesFor.acceptSecond (.answer (List.nil_subset _))

instance : Introduces [] g.defaultValue := by
  unfold Grammar.defaultValue
  infer_instance

instance : Introduces [] g.parameter := by
  unfold Grammar.parameter
  infer_instance

instance : Introduces [] g.parameterItems := by
  unfold Grammar.parameterItems
  infer_instance

instance : Introduces [] g.parameterList := by
  unfold Grammar.parameterList
  infer_instance

instance functionQualifiers_silent : Silent g.functionQualifiers := by
  unfold Grammar.functionQualifiers
  refine @IntroducesFor.repeated _ _ (fun _ => []) _ (fun found => ?_) _ _
  have exception : Silent (do
      return .inl { found with exception := some (← g.exceptionSpec) } :
        Parser (FunctionQualifiers ⊕ FunctionQualifiers)) :=
    .andThenSilent inferInstance fun _ => inferInstance
  infer_instance

instance : Introduces [] g.trailingResult := by
  unfold Grammar.trailingResult
  infer_instance

instance signature_introduces : Introduces [] g.signature := by
  unfold Grammar.signature
  refine .andThen inferInstance fun parameters => .andThenSilent inferInstance fun found => ?_
  infer_instance

instance parameterListAhead_introduces : Introduces [] g.parameterListAhead := by
  unfold Grammar.parameterListAhead
  refine .byPlace fun place => ?_
  split <;> infer_instance

instance : Introduces [] g.arraySize := by
  unfold Grammar.arraySize
  infer_instance

instance (mode : DeclaratorMode) : Introduces [] (g.declaratorSuffixes mode) := by
  unfold Grammar.declaratorSuffixes
  infer_instance

instance : Introduces [] g.bindingNames := by
  unfold Grammar.bindingNames
  infer_instance

instance (mode : DeclaratorMode) : Introduces [] (g.declaratorCore mode) := by
  unfold Grammar.declaratorCore
  infer_instance

instance declaratorRule_introducesFor (mode : DeclaratorMode) :
    IntroducesFor Tree.coreNames [] (g.declaratorRule mode) := by
  unfold Grammar.declaratorRule
  have named : IntroducesFor Tree.coreNames [] (do
      let pointers ← g.pointerOperators
      if mode == .pointersOnly then return .declarator (.ofList pointers) false .unnamed .nil
      let pack ← accept .ellipsis
      let core ← g.declaratorCore mode
      let suffixes ← g.declaratorSuffixes mode
      return .declarator (.ofList pointers) pack core (.ofList suffixes) : Parser Declarator) := by
    refine .andThenSilent inferInstance fun pointers => ?_
    split
    · exact .answer (List.nil_subset _)
    refine .andThenPlain inferInstance fun pack => ?_
    refine .andThen inferInstance fun core => .andThen inferInstance fun suffixes => .answer ?_
    rw [List.nil_append, namesIn_tree, ← namesIn_ofList, namesIn_trees]
    exact List.Subset.refl _
  infer_instance

instance {before : List String} {param : Tree .templateParameter}
    [covered : CoveredBy before param.parts] :
    IntroducesFor partNames before (pure param : Parser (Tree .templateParameter)) :=
  .answer covered.subset

instance : Introduces [] (typeParameterKey : Parser TypeParameterKey) := by
  unfold Grammar.typeParameterKey
  infer_instance

instance : IntroducesFor partNames [] g.templateTemplateParameter := by
  unfold Grammar.templateTemplateParameter
  infer_instance

instance : IntroducesFor partNames [] g.typeParameter := by
  unfold Grammar.typeParameter
  infer_instance

instance : IntroducesFor partNames [] g.templateParameter := by
  unfold Grammar.templateParameter
  infer_instance

/-- The list introduces what its parameters do, their own names included. -/
theorem parameters_cover (params : List (Tree .templateParameter)) :
    params.flatMap partNames ++ params.filterMap (·.parameterTypeName?) ⊆ namesIn params := by
  have inside {ident : String} {param : Tree .templateParameter} (listed : param ∈ params)
      (introduced : ident ∈ param.typeNames) : ident ∈ namesIn params :=
    List.mem_flatMap.mpr ⟨param.node, List.mem_flatMap.mpr ⟨param, listed, List.mem_singleton_self _⟩,
      introduced⟩
  refine List.append_subset.mpr ⟨fun ident member => ?_, fun ident member => ?_⟩
  · obtain ⟨param, listed, below⟩ := List.mem_flatMap.mp member
    refine inside listed (Tree.parts_subset ?_ below)
    cases param <;> trivial
  · obtain ⟨param, listed, own⟩ := List.mem_filterMap.mp member
    refine inside listed ?_
    cases param with
    | valueParameter => cases own
    | typeParameter key pack _ fallback => exact List.mem_append_left _ (Option.mem_toList.mpr own)
    | templateParameter inner key pack _ fallback =>
      exact List.mem_append_left _ (List.mem_append_left _ (Option.mem_toList.mpr own))

instance templateParametersRule_introduces : Introduces [] g.templateParametersRule := by
  unfold Grammar.templateParametersRule
  have listed : IntroducesFor (List.flatMap partNames) [] (angleCloses true do
      if (← here).isAt .greater then return [] else g.separated g.templateParameter : Parser _) := by
    have items : IntroducesFor (List.flatMap partNames) [] (g.separated g.templateParameter) :=
      separated_introduces inferInstance
    have none : IntroducesFor (List.flatMap partNames) []
        (pure [] : Parser (List (Tree .templateParameter))) := .answer (List.nil_subset _)
    infer_instance
  refine .andThenPlain inferInstance fun _ => .andThenOf listed fun params _ => ?_
  refine .andThenPlain inferInstance fun _ => ?_
  exact .andThenOf (.declareTypes (List.Subset.refl _)) fun _ _ => .answer (parameters_cover params)

end CppSyntax.Grammar
