import CppSyntax.Proofs.Everywhere.Builds
import CppSyntax.Proofs.WellFormed.Grammar.Specifier
import CppSyntax.Grammar.Template

/-!
Names, specifiers, declarators and parameters. Statements stand in them in the bodies of classes and in
the expressions of arguments, sizes and default values.
-/

set_option synthInstance.maxSize 4096

namespace CppSyntax

open CppSyntax.Parser

variable {Q : Tree .statementForm → Prop}

namespace Grammar

variable {g : Grammar Parser} [g.Bearer Q]

instance : Builds Q g.memberPointerScope := by
  unfold Grammar.memberPointerScope
  infer_instance

instance : Builds Q g.pointerOperators := by
  unfold Grammar.pointerOperators
  infer_instance

instance : Builds Q g.conversionTarget := by
  unfold Grammar.conversionTarget
  infer_instance

instance : Builds Q g.typeArgument := by
  unfold Grammar.typeArgument
  infer_instance

instance : Builds Q g.templateArgument := by
  unfold Grammar.templateArgument
  infer_instance

instance : Builds Q g.templateArguments := by
  unfold Grammar.templateArguments
  infer_instance

instance (inExpression : Bool) : Builds Q (g.fittingTemplateArguments inExpression) := by
  unfold Grammar.fittingTemplateArguments
  infer_instance

instance (inExpression marked : Bool) : Builds Q (g.plainSegment inExpression marked) := by
  unfold Grammar.plainSegment
  infer_instance

instance (inExpression : Bool) : Builds Q (g.segment inExpression) := by
  unfold Grammar.segment
  infer_instance

instance (inExpression : Bool) (segments : Bearing Q (List (Tree .segment))) :
    Builds Q (g.nameStep inExpression segments.value) := by
  unfold Grammar.nameStep
  infer_instance

instance (inExpression : Bool) : Builds Q (g.nameRule inExpression) := by
  unfold Grammar.nameRule
  infer_instance

instance : Builds Q g.decltype := by
  unfold Grammar.decltype
  infer_instance

instance : Builds Q g.declaredTitle := by
  unfold Grammar.declaredTitle
  infer_instance

instance : Builds Q g.baseSpecifier := by
  unfold Grammar.baseSpecifier
  infer_instance

instance leadWith_throughout {comment : Option String} {items : List (Tree c)} [all : Throughout Q items]
    {closing : List String} : Throughout Q (leadWith comment items closing) := by
  cases comment with
  | none => exact Throughout.pair
  | some comment =>
    cases items with
    | nil => exact Throughout.pair
    | cons first rest =>
      obtain ⟨allFirst, allRest⟩ := List.forall_mem_cons.mp (Throughout.list_iff.mp all)
      have moved : Throughout Q (first.mapPlace (·.precede comment)) := allFirst.mapPlace _
      have allRest : Throughout Q rest := Throughout.list_iff.mpr allRest
      exact Throughout.pair

instance (construct : String) {items : Parser (List (Tree c))} [Builds Q items] :
    Builds Q (braced construct items) := by
  unfold Grammar.braced
  infer_instance

instance (title : Option Name) (key : ClassKey) : Builds Q (g.classMembers title key) := by
  unfold Grammar.classMembers
  infer_instance

instance (key : ClassKey) : Builds Q (g.classSpecifier key) := by
  unfold Grammar.classSpecifier
  infer_instance

instance : Builds Q g.enumerator := by
  unfold Grammar.enumerator
  infer_instance

instance : Builds Q g.enumerators := by
  unfold Grammar.enumerators
  infer_instance

instance enumSpecifier_builds : Builds Q g.enumSpecifier := by
  unfold Grammar.enumSpecifier
  refine .andThen inferInstance fun _ => .andThen inferInstance fun key => ?_
  refine .whether inferInstance (fun title => ?_) ?_ <;> infer_instance

end Grammar

instance {specs : ParsedSpecifiers} [all : Throughout Q specs] : Throughout Q specs.type :=
  ⟨all.everywhere⟩

instance {specs : ParsedSpecifiers} [Throughout Q specs] : Throughout Q specs.tree := by
  unfold ParsedSpecifiers.tree
  infer_instance

instance {specs : ParsedSpecifiers} {type : TypeSpecifier} [Throughout Q type] :
    Throughout Q { specs with type := some type } :=
  ⟨(Throughout.optionSome : Throughout Q (some type)).everywhere⟩

instance {cv : Qualifiers} {type : TypeSpecifier} [all : Throughout Q type] :
    Throughout Q (type.qualify cv) := by
  cases type <;> exact @Throughout.built _ _ _ ⟨trivial⟩ all.parts

namespace Grammar

namespace SpecifierDraft

variable {draft : SpecifierDraft}

/-- The words of a builtin type hold no statements. -/
theorem throughout_iff : Throughout Q draft ↔ Throughout Q draft.specs.type := by
  have word : Throughout Q draft.wordType? := by
    unfold wordType?
    infer_instance
  constructor
  · exact fun all => (Throughout.pair_iff.mp ⟨all.everywhere⟩).1
  · intro all
    exact ⟨(Throughout.pair_iff.mpr ⟨all, word⟩).everywhere⟩

instance : Throughout Q empty := throughout_iff.mpr Throughout.optionNone

section

variable [all : Throughout Q draft]

include all

instance : Throughout Q draft.sure := ⟨all.everywhere⟩

instance (text : String) : Throughout Q (draft.withAttribute text) := ⟨all.everywhere⟩

instance (text : String) : Throughout Q (draft.withAlignment text) := ⟨all.everywhere⟩

instance (modifier : Modifier) : Throughout Q (draft.withModifier modifier) := ⟨all.everywhere⟩

instance (cv : Qualifiers) : Throughout Q { draft with cv } := ⟨all.everywhere⟩

instance (isTypedef : Bool) : Throughout Q { draft with specs := { draft.specs with isTypedef } } :=
  ⟨all.everywhere⟩

instance withWords_throughout (words : List String) : Throughout Q { draft with words } := by
  have type := throughout_iff.mp all
  exact throughout_iff.mpr type

instance (type : TypeSpecifier) [Throughout Q type] : Throughout Q (draft.withType type) :=
  throughout_iff.mpr (inferInstanceAs (Throughout Q (some type)))

instance : Throughout Q draft.specs := ⟨(throughout_iff.mp all).everywhere⟩

instance draftType_throughout : Throughout Q draft.type? := by
  have type := throughout_iff.mp all
  unfold type?
  split
  · cases given : draft.specs.type with
    | none => exact Throughout.optionNone
    | some found =>
      have all : Throughout Q found := Throughout.some_iff.mp (given ▸ type)
      exact Throughout.optionSome
  · exact Throughout.some_iff.mpr inferInstance

end

end SpecifierDraft

variable {g : Grammar Parser} [g.Bearer Q]

theorem keywordType_builds {word : Keyword} {type : Parser TypeSpecifier}
    (found : g.keywordType word = some type) : Builds Q type := by
  unfold Grammar.keywordType at found
  split at found
  · cases found
    infer_instance
  · cases found
    infer_instance
  · cases found
    infer_instance
  · cases found
    infer_instance
  · obtain ⟨key, _, rfl⟩ := Option.map_eq_some_iff.mp found
    infer_instance

instance keywordSpecifier_builds (draft : Bearing Q SpecifierDraft) (word : Keyword) :
    Builds Q (g.keywordSpecifier draft.value word) := by
  unfold Grammar.keywordSpecifier
  refine .andThen inferInstance fun place => ?_
  dsimp only
  split
  · infer_instance
  split
  · infer_instance
  iterate 5
    split
    · infer_instance
  split
  · split
    · rename_i type found
      have builds : Builds Q type := keywordType_builds found
      infer_instance
    · infer_instance
  · infer_instance

instance (scope : Scope) (draft : Bearing Q SpecifierDraft) :
    Builds Q (g.namedSpecifier scope draft.value) := by
  unfold Grammar.namedSpecifier
  infer_instance

instance specifierStep_builds (scope : Scope) (draft : Bearing Q SpecifierDraft) :
    Builds Q (g.specifierStep scope draft.value) := by
  unfold Grammar.specifierStep
  refine .andThen inferInstance fun place => ?_
  split <;> infer_instance

instance specifiersRule_builds (scope : Scope) : Builds Q (g.specifiersRule scope) := by
  unfold Grammar.specifiersRule
  refine .andThen inferInstance fun draft => ?_
  have all : Throughout Q draft.value.type? := inferInstance
  cases found : draft.value.type? with
  | none => infer_instance
  | some type =>
    have all : Throughout Q type := Throughout.some_iff.mp (found ▸ all)
    infer_instance

instance : Builds Q g.exceptionSpec := by
  unfold Grammar.exceptionSpec
  infer_instance

instance : Builds Q g.defaultValue := by
  unfold Grammar.defaultValue
  infer_instance

instance : Builds Q g.parameter := by
  unfold Grammar.parameter
  infer_instance

instance : Builds Q g.parameterItems := by
  unfold Grammar.parameterItems
  infer_instance

instance : Builds Q g.parameterList := by
  unfold Grammar.parameterList
  infer_instance

instance {found : FunctionQualifiers} [all : Throughout Q found] : Throughout Q found.exception :=
  ⟨all.everywhere⟩

instance {cv : Qualifiers} {reference : Option ReferenceQualifier}
    {exception : Option (Tree .exceptionSpec)} [all : Throughout Q exception] :
    Throughout Q (FunctionQualifiers.mk cv reference exception) :=
  ⟨all.everywhere⟩

instance : Builds Q g.functionQualifiers := by
  unfold Grammar.functionQualifiers
  infer_instance

instance : Builds Q g.trailingResult := by
  unfold Grammar.trailingResult
  infer_instance

instance : Builds Q g.signature := by
  unfold Grammar.signature
  infer_instance

instance : Builds Q g.arraySize := by
  unfold Grammar.arraySize
  infer_instance

instance (mode : DeclaratorMode) : Builds Q (g.declaratorSuffixes mode) := by
  unfold Grammar.declaratorSuffixes
  infer_instance

instance (mode : DeclaratorMode) : Builds Q (g.declaratorCore mode) := by
  unfold Grammar.declaratorCore
  infer_instance

instance (mode : DeclaratorMode) : Builds Q (g.declaratorRule mode) := by
  unfold Grammar.declaratorRule
  infer_instance

instance : Builds Q g.templateTemplateParameter := by
  unfold Grammar.templateTemplateParameter
  infer_instance

instance : Builds Q g.typeParameter := by
  unfold Grammar.typeParameter
  infer_instance

instance : Builds Q g.templateParameter := by
  unfold Grammar.templateParameter
  infer_instance

instance : Builds Q g.templateParametersRule := by
  unfold Grammar.templateParametersRule
  infer_instance

end Grammar

end CppSyntax
