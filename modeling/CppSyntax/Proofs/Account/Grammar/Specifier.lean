import CppSyntax.Proofs.Account.Grammar.Name
import CppSyntax.Proofs.WellFormed.Grammar.Specifier

/-!
Specifiers. Behind the name of a class or enumeration that name is known, so that every node made of
it introduces what is known already.
-/

set_option synthInstance.maxSize 4096

namespace CppSyntax

open CppSyntax.Parser

variable {place : State} {known : List String}

namespace Known

/-- What a name in the place of another node introduces comes from its last segment. -/
instance typenameType {cv : Qualifiers} {target : Name} [holds : Known target known] :
    Known (Tree.elaboratedType cv .ofTypename target) known :=
  @built _ _ _ ⟨List.nil_subset _⟩ inferInstance

instance noTitle : Among (Part.ofOption (none : Option Name)).lastIdents known := ⟨List.nil_subset _⟩

instance title {title : Name} [own : Among title.lastIdent?.toList known] :
    Among (Part.ofOption (some title)).lastIdents known := own

theorem typeNames_mapPlace (change : Placement → Placement) (tree : Tree c) :
    (tree.mapPlace change).typeNames = tree.typeNames := by
  cases tree <;> rfl

theorem typeNames_qualify (cv : Qualifiers) (type : TypeSpecifier) :
    (type.qualify cv).typeNames = type.typeNames := by
  cases type <;> rfl

instance qualify {cv : Qualifiers} {type : TypeSpecifier} [holds : Known type known] :
    Known (type.qualify cv) known := by
  rw [tree_iff, typeNames_qualify]
  exact tree_iff.mp holds

end Known

namespace Grammar

variable {g : Grammar Parser} [g.Accountable]

instance : Accounts place known (startPlacement : Parser Placement) := by
  unfold Grammar.startPlacement
  infer_instance

instance (close : Punctuator) (expected : Expectation) :
    Accounts place known (g.balancedTokens close expected) := by
  unfold Grammar.balancedTokens
  infer_instance

instance : Accounts place known g.attributeText := by
  unfold Grammar.attributeText
  infer_instance

instance : Accounts place known g.alignmentText := by
  unfold Grammar.alignmentText
  infer_instance

instance : Accounts place known g.attributesAndAlignment := by
  unfold Grammar.attributesAndAlignment
  infer_instance

instance : Accounts place known g.decltype := by
  unfold Grammar.decltype
  infer_instance

/-- Behind the name of a class or enumeration that name is known. -/
instance (priority := 10003) declaredTitle_accounts [HasNodes α] {f : Option Name → Parser α}
    [named : ∀ title, Accounts place (known ++ namesIn title ++ title.lastIdent?.toList)
      (f (some title))]
    [unnamed : Accounts place known (f none)] :
    Accounts place known (g.declaredTitle >>= f) := by
  unfold Grammar.declaredTitle
  rw [Parser.bind_assoc]
  refine .byPlace fun there => ?_
  split
  · rw [Parser.bind_assoc]
    refine .andThen inferInstance fun title => ?_
    rw [Parser.bind_assoc]
    exact .declaredThen (AccountsFor.declareTypes_reply _) (named title)
  · exact unnamed

instance access_accounts : Accounts place known (access? : Parser (Option Access)) := by
  unfold Grammar.access?
  refine .byPlace fun there => ?_
  split
  · split <;> infer_instance
  · infer_instance

instance : Accounts place known g.baseSpecifier := by
  unfold Grammar.baseSpecifier
  infer_instance

theorem namesIn_leadWith (comment : Option String) (items : List (Tree c)) (closing : List String) :
    namesIn (leadWith comment items closing) = namesIn items := by
  rcases comment with _ | comment
  · simp [leadWith]
  · cases items <;> simp [leadWith, Known.typeNames_mapPlace]

instance {comment : Option String} {items : List (Tree c)} [holds : Known items known]
    {closing : List String} : Known (leadWith comment items closing) known :=
  ⟨namesIn_leadWith comment items closing ▸ holds.subset⟩

instance (construct : String) {items : Parser (List (Tree c))}
    [Accounts place known items] : Accounts place known (braced construct items) := by
  unfold Grammar.braced
  infer_instance

instance (title : Option Name) (key : ClassKey) : Accounts place known (g.classMembers title key) := by
  unfold Grammar.classMembers
  infer_instance

instance (key : ClassKey) : Accounts place known (g.classSpecifier key) := by
  unfold Grammar.classSpecifier
  infer_instance

instance : Accounts place known g.enumerator := by
  unfold Grammar.enumerator
  infer_instance

instance : Accounts place known g.enumerators := by
  unfold Grammar.enumerators
  infer_instance

instance : Accounts place known (enumKey : Parser (Option ClassKey)) := by
  unfold Grammar.enumKey
  infer_instance

instance : Accounts place known g.enumSpecifier := by
  unfold Grammar.enumSpecifier
  infer_instance

instance {specs : ParsedSpecifiers} [holds : Known specs known] : Known specs.type known :=
  ⟨holds.subset⟩

instance {specs : ParsedSpecifiers} [Known specs known] : Known specs.tree known := by
  unfold ParsedSpecifiers.tree
  infer_instance

instance {specs : ParsedSpecifiers} {type : TypeSpecifier} [Known type known] :
    Known { specs with type := some type } known :=
  ⟨(Known.optionSome : Known (some type) known).subset⟩

namespace SpecifierDraft

variable {draft : SpecifierDraft}

/-- Words of a builtin type introduce nothing. -/
theorem namesIn_draft (draft : SpecifierDraft) : namesIn draft = namesIn draft.specs.type := by
  have words : namesIn draft.wordType? = [] := by
    unfold wordType?
    split
    · rfl
    · exact namesIn_some.trans (namesIn_tree (.builtinType .none draft.words))
  have both : namesIn draft = namesIn (draft.specs.type, draft.wordType?) := rfl
  rw [both, namesIn_pair, words, List.append_nil]

theorem known_draft : Known draft known ↔ Known draft.specs.type known := by
  rw [known_iff, known_iff, namesIn_draft]

instance : Known empty known := known_draft.mpr Known.optionNone

section

variable [holds : Known draft known]

include holds

instance : Known draft.sure known := ⟨holds.subset⟩

instance (text : String) : Known (draft.withAttribute text) known := ⟨holds.subset⟩

instance (text : String) : Known (draft.withAlignment text) known := ⟨holds.subset⟩

instance (modifier : Modifier) : Known (draft.withModifier modifier) known := ⟨holds.subset⟩

instance (cv : Qualifiers) : Known { draft with cv } known := ⟨holds.subset⟩

instance (isTypedef : Bool) : Known { draft with specs := { draft.specs with isTypedef } } known :=
  ⟨holds.subset⟩

instance withWords_known (words : List String) : Known { draft with words } known := by
  have type := known_draft.mp holds
  exact known_draft.mpr type

instance (type : TypeSpecifier) [Known type known] : Known (draft.withType type) known :=
  known_draft.mpr (inferInstanceAs (Known (some type) known))

instance : Known draft.specs known := ⟨(known_draft.mp holds).subset⟩

instance draftType_known : Known draft.type? known := by
  have type := known_draft.mp holds
  unfold type?
  split
  · cases given : draft.specs.type with
    | none => exact Known.optionNone
    | some found =>
      have found : Known found known := Known.some_iff.mp (given ▸ type)
      exact Known.optionSome
  · infer_instance

end

end SpecifierDraft

theorem keywordType_accounts {word : Keyword} {type : Parser TypeSpecifier}
    (found : g.keywordType word = some type) : Accounts place known type := by
  unfold Grammar.keywordType at found
  split at found
  · cases found
    infer_instance
  · cases found
    infer_instance
  · cases found
    infer_instance
  · cases found
    infer_instance
  · obtain ⟨key, _, rfl⟩ := Option.map_eq_some_iff.mp found
    infer_instance

instance keywordSpecifier_accounts (draft : SpecifierDraft) [Known draft known] (word : Keyword) :
    Accounts place known (g.keywordSpecifier draft word) := by
  unfold Grammar.keywordSpecifier
  refine .byPlace fun there => ?_
  dsimp only
  split
  · infer_instance
  split
  · infer_instance
  split
  · infer_instance
  split
  · infer_instance
  split
  · infer_instance
  split
  · infer_instance
  split
  · infer_instance
  split
  · split
    · rename_i type found
      have accounts (known : List String) : Accounts place known type := keywordType_accounts found
      infer_instance
    · infer_instance
  · infer_instance

instance (scope : Scope) : Accounts place known (g.declaratorNameAhead scope) := by
  unfold Grammar.declaratorNameAhead
  infer_instance

instance (scope : Scope) (draft : SpecifierDraft) [Known draft known] :
    Accounts place known (g.namedSpecifier scope draft) := by
  unfold Grammar.namedSpecifier
  infer_instance

instance specifierStep_accounts (scope : Scope) (draft : SpecifierDraft) [Known draft known] :
    Accounts place known (g.specifierStep scope draft) := by
  unfold Grammar.specifierStep
  refine .byPlace fun there => ?_
  split <;> infer_instance

instance specifiersRule_accounts (scope : Scope) : Accounts place known (g.specifiersRule scope) := by
  unfold Grammar.specifiersRule
  refine .andThen inferInstance fun draft => ?_
  have holds : Known draft.type? (known ++ namesIn draft) := inferInstance
  cases found : draft.type? with
  | none => infer_instance
  | some type =>
    have holds : Known type (known ++ namesIn draft) := Known.some_iff.mp (found ▸ holds)
    infer_instance

end Grammar

end CppSyntax
