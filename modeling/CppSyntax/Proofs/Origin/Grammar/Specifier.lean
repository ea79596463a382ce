import CppSyntax.Proofs.Origin.Promise
import CppSyntax.Proofs.Account.Grammar.Specifier

/-!
Names and specifiers. A member pointer is not read where no types stand apart. Behind the name of a class
or enumeration that name is known, and every type that is made of it introduces it.
-/

set_option synthInstance.maxSize 4096

namespace CppSyntax

open CppSyntax.Parser

variable {before : List String}

namespace Covers

variable {title : Name}

instance usedClass {cv : Qualifiers} {key : ClassKey} :
    Covers title.lastIdent?.toList (Tree.elaboratedType cv (.ofClass key) title) :=
  tree_iff.mpr (List.subset_append_left ..)

instance usedEnum {cv : Qualifiers} :
    Covers title.lastIdent?.toList (Tree.elaboratedType cv .ofEnum title) :=
  tree_iff.mpr (List.subset_append_left ..)

instance bodilessEnum {key : Option ClassKey} {underlying : Part .typeSpecifier} :
    Covers title.lastIdent?.toList (Tree.bodilessEnum key title underlying) := by
  refine tree_iff.mpr ?_
  show _ ⊆ title.lastIdent?.toList ++ title.typeNames ++ underlying.typeNames
  rw [List.append_assoc]
  exact List.subset_append_left ..

instance definedClass {key : ClassKey} {attributes alignment closing : List String} {isFinal : Bool}
    {bases : Trees .base} {members : Trees .declaration} :
    Covers title.lastIdent?.toList (Tree.classSpecifier key attributes alignment
      (Part.ofOption (some title)) isFinal bases members closing) := by
  refine tree_iff.mpr ?_
  show _ ⊆ title.lastIdent?.toList ++ title.typeNames ++ bases.typeNames ++ members.typeNames
  rw [List.append_assoc, List.append_assoc]
  exact List.subset_append_left ..

instance definedEnum {key : Option ClassKey} {underlying : Part .typeSpecifier}
    {enumerators : Trees .enumerator} : Covers title.lastIdent?.toList
      (Tree.enumSpecifier key (Part.ofOption (some title)) underlying enumerators) := by
  refine tree_iff.mpr ?_
  show _ ⊆ title.lastIdent?.toList ++ title.typeNames ++ underlying.typeNames ++ enumerators.typeNames
  rw [List.append_assoc, List.append_assoc]
  exact List.subset_append_left ..

end Covers

namespace Grammar

variable {g : Grammar Parser} [g.Introducing]

instance : Introduces [] g.qualifiers := by
  unfold Grammar.qualifiers
  infer_instance

/-- No name goes on to a member pointer. -/
instance memberPointerScope_silent : Silent g.memberPointerScope := by
  unfold Grammar.memberPointerScope
  have apart : (TokenKind.punctuator .scope).standsApart (.punctuator .star) = true := rfl
  refine .andThenOf (inferInstance : Introduces [] g.name) fun scope _ => ?_
  exact .requireFirst apart IntroducesFor.requireSecond

instance pointerOperators_silent : Silent g.pointerOperators := by
  unfold Grammar.pointerOperators
  refine @IntroducesFor.repeated _ _ (fun _ => []) _ (fun found => ?_) _ _
  have operator : Silent (do
      match ← attempt g.memberPointerScope with
      | some scope => return .inl (found ++ [.memberPointer scope (← g.qualifiers)])
      | none => return .inr found : Parser (_ ⊕ List (Tree .pointerOperator))) :=
    .attemptSilent inferInstance fun scope => by cases scope <;> infer_instance
  infer_instance

instance (word : Keyword) : Introduces [] (allocationSymbol word : Parser String) := by
  unfold Grammar.allocationSymbol
  infer_instance

instance (text : String) : Introduces [] (literalSymbol text : Parser String) := by
  unfold Grammar.literalSymbol
  infer_instance

instance operatorSymbol_introduces : Introduces [] (operatorSymbol : Parser (Option String)) := by
  unfold Grammar.operatorSymbol
  refine .byPlace fun place => ?_
  split
  · infer_instance
  · infer_instance
  · infer_instance
  · split <;> infer_instance
  · infer_instance

instance conversionTarget_introduces : Introduces [] g.conversionTarget := by
  unfold Grammar.conversionTarget
  refine .andThen inferInstance fun type => .andThenSilent inferInstance fun pointers => ?_
  infer_instance

instance : Introduces [] g.typeArgument := by
  unfold Grammar.typeArgument
  infer_instance

instance : Introduces [] g.templateArgument := by
  unfold Grammar.templateArgument
  infer_instance

instance : Introduces [] g.templateArguments := by
  unfold Grammar.templateArguments
  infer_instance

instance (inExpression : Bool) : Introduces [] (g.fittingTemplateArguments inExpression) := by
  unfold Grammar.fittingTemplateArguments
  infer_instance

instance (inExpression marked : Bool) : Introduces [] (g.plainSegment inExpression marked) := by
  unfold Grammar.plainSegment
  infer_instance

instance (inExpression : Bool) : Introduces [] (g.segment inExpression) := by
  unfold Grammar.segment
  infer_instance

instance (inExpression : Bool) (segments : List (Tree .segment)) :
    Introduces (namesIn segments) (g.nameStep inExpression segments) := by
  unfold Grammar.nameStep
  infer_instance

instance (inExpression : Bool) : Introduces [] (g.nameRule inExpression) := by
  unfold Grammar.nameRule
  infer_instance

instance : Introduces [] (startPlacement : Parser Placement) := by
  unfold Grammar.startPlacement
  infer_instance

instance (close : Punctuator) (expected : Expectation) :
    Introduces [] (g.balancedTokens close expected) := by
  unfold Grammar.balancedTokens
  infer_instance

instance : Introduces [] g.attributeText := by
  unfold Grammar.attributeText
  infer_instance

instance : Introduces [] g.alignmentText := by
  unfold Grammar.alignmentText
  infer_instance

instance : Introduces [] g.attributesAndAlignment := by
  unfold Grammar.attributesAndAlignment
  infer_instance

instance : Introduces [] g.decltype := by
  unfold Grammar.decltype
  infer_instance

/-- The names that a title introduces when it is declared. -/
def titleNames (title : Option Name) : List String :=
  (Part.ofOption title).lastIdents ++ namesIn title

theorem titleNames_some (title : Name) :
    titleNames (some title) = title.lastIdent?.toList ++ namesIn title := by
  rw [titleNames, namesIn_some]
  rfl

theorem declaredTitle_introduces : IntroducesFor titleNames [] g.declaredTitle := by
  unfold Grammar.declaredTitle
  refine .byPlace fun place => ?_
  split
  · refine .andThen inferInstance fun title => ?_
    refine .andThenOf (.declareTypes (List.Subset.refl _)) fun _ _ => .answer ?_
    rw [List.nil_append, titleNames_some]
    exact List.append_subset.mpr ⟨List.subset_append_right .., List.subset_append_left ..⟩
  · exact .answer (List.nil_subset _)

/-- What follows the name of a class or enumeration, if it has one. -/
instance (priority := 10003) declaredTitleThen_introduces [HasNodes α] {f : Option Name → Parser α}
    [named : ∀ title, Introduces (before ++ title.lastIdent?.toList ++ namesIn title) (f (some title))]
    [unnamed : Introduces before (f none)] : Introduces before (g.declaredTitle >>= f) := by
  refine .andThenOf declaredTitle_introduces fun title _ => ?_
  cases title with
  | none => exact (List.append_nil before).symm ▸ unnamed
  | some title =>
    rw [titleNames_some, ← List.append_assoc]
    exact named title

instance access_introduces : Introduces [] (access? : Parser (Option Access)) := by
  unfold Grammar.access?
  refine .byPlace fun place => ?_
  split
  · split <;> infer_instance
  · infer_instance

instance : Introduces [] g.baseSpecifier := by
  unfold Grammar.baseSpecifier
  infer_instance

instance {comment : Option String} {items : List (Tree c)} {closing : List String} :
    Covers (namesIn items) (leadWith comment items closing) :=
  ⟨namesIn_leadWith comment items closing ▸ List.Subset.refl _⟩

instance (construct : String) {items : Parser (List (Tree c))} [Introduces [] items] :
    Introduces [] (braced construct items) := by
  unfold Grammar.braced
  infer_instance

instance (title : Option Name) (key : ClassKey) : Introduces [] (g.classMembers title key) := by
  unfold Grammar.classMembers
  infer_instance

instance (key : ClassKey) : Introduces [] (g.classSpecifier key) := by
  unfold Grammar.classSpecifier
  infer_instance

instance : Introduces [] g.enumerator := by
  unfold Grammar.enumerator
  infer_instance

instance : Introduces [] g.enumerators := by
  unfold Grammar.enumerators
  infer_instance

instance : Introduces [] (enumKey : Parser (Option ClassKey)) := by
  unfold Grammar.enumKey
  infer_instance

instance enumSpecifier_introduces : Introduces [] g.enumSpecifier := by
  unfold Grammar.enumSpecifier
  refine .andThenPlain inferInstance fun _ => .andThenPlain inferInstance fun key => ?_
  refine .andThenOf declaredTitle_introduces fun title _ => .byPlace fun place => ?_
  rw [List.nil_append]
  have finish (underlying : Option TypeSpecifier) : Introduces (titleNames title ++ namesIn underlying) (do
      if (← here).isAt .leftBrace then
        let items ← g.enumerators
        return .enumType .none (.enumSpecifier key (.ofOption title) (.ofOption underlying)
          (.ofList items))
      match title with
      | some title =>
        if key.isNone && underlying.isNone then return .elaboratedType .none .ofEnum title
        else return .enumType .none (.bodilessEnum key title (.ofOption underlying))
      | none => fail (.phrase "'\x7b' to open enum body") : Parser TypeSpecifier) := by
    refine .byPlace fun place => ?_
    cases title with
    | none =>
      rw [show titleNames none = [] from rfl]
      infer_instance
    | some title =>
      rw [titleNames_some]
      cases underlying with
      | none =>
        rw [namesIn_none]
        infer_instance
      | some type =>
        -- With an underlying type the enumeration is declared and not only used.
        simp only [namesIn_some, Option.isNone_some, Bool.and_false, Bool.false_eq_true, if_false]
        infer_instance
  dsimp only
  split
  · exact .andThenPlain inferInstance fun _ => .andThen inferInstance finish
  · exact List.append_nil (titleNames title) ▸ finish none

namespace SpecifierDraft

variable {draft : SpecifierDraft}

/-- The names that a draft introduces as it stands. Words of a builtin type introduce nothing, and
they do not stand beside another type. -/
def draftNames (draft : SpecifierDraft) : List String :=
  if draft.words.isEmpty then namesIn draft.specs.type else []

theorem draftNames_type? (draft : SpecifierDraft) : draftNames draft = namesIn draft.type? := by
  unfold draftNames type?
  split
  · cases draft.specs.type with
    | none => rfl
    | some type => simp [Known.typeNames_qualify]
  · rfl

theorem draftNames_typeless (typeless : draft.specs.type = none) : draftNames draft = [] := by
  simp [draftNames, typeless]

theorem draftNames_open (empty : draft.hasType = false) (type : TypeSpecifier) :
    draftNames draft = [] ∧ draftNames (draft.withType type) = type.typeNames := by
  obtain ⟨typeless, wordless⟩ := Bool.or_eq_false_iff.mp empty
  have typeless : draft.specs.type = none := by simpa using typeless
  have wordless : draft.words.isEmpty = true := by simpa using wordless
  exact ⟨draftNames_typeless typeless, by simp [draftNames, withType, wordless]⟩

end SpecifierDraft

open SpecifierDraft

/-- The names of a draft that may be complete. -/
def stepNames : SpecifierDraft ⊕ SpecifierDraft → List String := Sum.elim draftNames draftNames

theorem keywordType_introduces {word : Keyword} {type : Parser TypeSpecifier}
    (found : g.keywordType word = some type) : Introduces [] type := by
  unfold Grammar.keywordType at found
  split at found
  · cases found
    infer_instance
  · cases found
    infer_instance
  · cases found
    infer_instance
  · cases found
    infer_instance
  · obtain ⟨key, _, rfl⟩ := Option.map_eq_some_iff.mp found
    infer_instance

/-- A type takes the place of none. -/
theorem withType_introduces {draft : SpecifierDraft} {type : Parser TypeSpecifier}
    (empty : draft.hasType = false) (read : Introduces [] type) :
    IntroducesFor stepNames (draftNames draft)
      (do return .inl (draft.withType (← type)).sure : Parser (SpecifierDraft ⊕ SpecifierDraft)) := by
  refine .andThenOf read fun found _ => .answer ?_
  obtain ⟨nothing, introduced⟩ := draftNames_open empty found
  rw [nothing, List.nil_append, namesIn_tree]
  exact (introduced : stepNames (.inl (draft.withType found).sure) = _) ▸ List.Subset.refl _

theorem keywordSpecifier_introduces (draft : SpecifierDraft) (word : Keyword) :
    IntroducesFor stepNames (draftNames draft) (g.keywordSpecifier draft word) := by
  unfold Grammar.keywordSpecifier
  refine .byPlace fun place => ?_
  dsimp only
  split
  · exact .answer (List.Subset.refl _)
  split
  · exact .andThenPlain inferInstance fun _ => .answer (List.Subset.refl _)
  split
  · exact .andThenPlain inferInstance fun _ => .answer (List.Subset.refl _)
  split
  · exact .andThenPlain inferInstance fun _ => .answer (List.Subset.refl _)
  split
  · exact .andThenPlain inferInstance fun _ => .answer (List.Subset.refl _)
  split
  · exact .andThenPlain inferInstance fun _ => .answer (List.Subset.refl _)
  split
  · rename_i builtin
    have typeless : draft.specs.type = none := by simp_all
    rw [draftNames_typeless typeless]
    exact .andThenPlain inferInstance fun _ => .answer (List.nil_subset _)
  split
  · rename_i empty
    split
    · rename_i type found
      exact withType_introduces (by simpa using empty) (keywordType_introduces found)
    · exact .answer (List.Subset.refl _)
  · exact .answer (List.Subset.refl _)

instance (scope : Scope) : Introduces [] (g.declaratorNameAhead scope) := by
  unfold Grammar.declaratorNameAhead
  infer_instance

theorem namedSpecifier_introduces (scope : Scope) (draft : SpecifierDraft) :
    IntroducesFor stepNames (draftNames draft) (g.namedSpecifier scope draft) := by
  unfold Grammar.namedSpecifier
  split
  · exact .answer (List.Subset.refl _)
  rename_i empty
  refine .andThenPlain inferInstance fun ahead => ?_
  split
  · exact .answer (List.Subset.refl _)
  refine .andThen inferInstance fun target => .byPlace fun place => ?_
  obtain ⟨nothing, introduced⟩ := draftNames_open (by simpa using empty) (.namedType .none target)
  have covers : draftNames draft ++ namesIn target ⊆ draftNames (draft.withType (.namedType .none target)) := by
    rw [nothing, introduced, namesIn_tree]
    exact List.Subset.refl _
  dsimp only
  split
  · exact .answer covers
  · exact .answer covers

theorem specifierStep_introduces (scope : Scope) (draft : SpecifierDraft) :
    IntroducesFor stepNames (draftNames draft) (g.specifierStep scope draft) := by
  unfold Grammar.specifierStep
  refine .byPlace fun place => ?_
  split
  · exact keywordSpecifier_introduces draft _
  · exact namedSpecifier_introduces scope draft
  · exact namedSpecifier_introduces scope draft
  · split
    · exact .andThenPlain inferInstance fun _ => .answer (List.Subset.refl _)
    · exact .answer (List.Subset.refl _)

instance specifiersRule_introduces (scope : Scope) : Introduces [] (g.specifiersRule scope) := by
  unfold Grammar.specifiersRule
  have read : IntroducesFor draftNames [] (g.loop (g.specifierStep scope) .empty) :=
    @IntroducesFor.repeated _ _ stepNames _ (specifierStep_introduces scope) _ .empty
  refine .andThenOf read fun draft _ => ?_
  rw [List.nil_append, draftNames_type?]
  split
  · rename_i type found
    refine .answer ?_
    rw [found]
    exact List.Subset.refl _
  · rename_i nothing
    rw [nothing, namesIn_none]
    infer_instance

end Grammar

end CppSyntax
