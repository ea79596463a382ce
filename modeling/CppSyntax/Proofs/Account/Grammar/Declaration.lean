import CppSyntax.Proofs.Account.Grammar.Operand
import CppSyntax.Grammar.Declaration

/-!
Declarations. Where one is required, the error about a stray semicolon stands at that semicolon,
although it is raised behind it.
-/

set_option synthInstance.maxSize 4096

namespace CppSyntax

open CppSyntax.Parser

variable {place : State} {known : List String}

namespace Grammar

variable {g : Grammar Parser} [accountable : g.Accountable]

instance : Accounts place known g.namespacePath := by
  unfold Grammar.namespacePath
  infer_instance

instance namespaceForm_accounts (isInline : Bool) : Accounts place known (g.namespaceForm isInline) := by
  unfold Grammar.namespaceForm
  refine .andThenPlain inferInstance fun _ => .andThenPlain inferInstance fun path => ?_
  dsimp only
  split <;> infer_instance

instance : Accounts place known g.aliasForm := by
  unfold Grammar.aliasForm
  infer_instance

instance : Accounts place known g.usingForm := by
  unfold Grammar.usingForm
  infer_instance

instance requiredDeclaration_accounts (scope : Scope) (purpose : String) :
    Accounts place known (g.requiredDeclaration scope purpose) := by
  refine ⟨fun context state behind before => ?_⟩
  have account : (g.declaration scope context state).Accounted namesIn place known :=
    AccountsFor.accounted context state behind before
  show (Parser.bind (g.declaration scope) _ context state).Accounted namesIn place known
  unfold Parser.bind
  cases reply : g.declaration scope context state with
  | done found reached =>
    rw [reply] at account
    cases found with
    | some inner => exact account
    | none =>
      have isAt : state.kind = .punctuator .semicolon := eq_of_beq (accountable.stray scope reply)
      exact SyntaxError.TellsOf.of_current ⟨state, behind⟩ rfl (.inl (isAt ▸ rfl))
  | failed error stopped =>
    rw [reply] at account
    exact account
  | exhausted => trivial

instance (scope : Scope) : Accounts place known (g.templateForm scope) := by
  unfold Grammar.templateForm
  infer_instance

instance (abi : String) : Accounts place known (g.linkageForm abi) := by
  unfold Grammar.linkageForm
  infer_instance

instance : Accounts place known g.assertedClauses := by
  unfold Grammar.assertedClauses
  infer_instance

instance : Accounts place known g.staticAssertForm := by
  unfold Grammar.staticAssertForm
  infer_instance

instance : Accounts place known g.virtualWords := by
  unfold Grammar.virtualWords
  infer_instance

instance : Accounts place known g.memberInit := by
  unfold Grammar.memberInit
  infer_instance

instance : Accounts place known (assignedBody : Parser (Tree .functionBody)) := by
  unfold Grammar.assignedBody
  infer_instance

instance : Accounts place known g.functionBody := by
  unfold Grammar.functionBody
  infer_instance

instance (specs : ParsedSpecifiers) (pointers : Trees .pointerOperator) (title : Name)
    (sig : Tree .signature) [Known specs known] [Known pointers known] [Known title known]
    [Known sig known] : Accounts place known (g.functionForm specs pointers title sig) := by
  unfold Grammar.functionForm
  infer_instance

instance : Accounts place known g.initializer := by
  unfold Grammar.initializer
  infer_instance

instance (scope : Scope) : Accounts place known (g.memberDeclarator scope) := by
  unfold Grammar.memberDeclarator Tree.plainDeclarator
  infer_instance

instance (scope : Scope) : Accounts place known (g.bitWidth scope) := by
  unfold Grammar.bitWidth
  infer_instance

instance (scope : Scope) (first : Declarator) [Known first known] :
    Accounts place known (g.initDeclarators scope first) := by
  unfold Grammar.initDeclarators
  infer_instance

instance (specs : ParsedSpecifiers) (first : Declarator) [Known specs known] [Known first known] :
    Accounts place known (g.typedefForm specs first) := by
  unfold Grammar.typedefForm
  infer_instance

instance (scope : Scope) (specs : ParsedSpecifiers) (first : Declarator) [Known specs known]
    [Known first known] : Accounts place known (g.variableForm scope specs first) := by
  unfold Grammar.variableForm
  infer_instance

/-- What specifiers declare on their own introduces what their type does. -/
instance standingAlone_known (specs : ParsedSpecifiers) [Known specs known] :
    Known (Tree.standingAlone specs) known := by
  have ofType : Known specs.type known := inferInstance
  unfold Tree.standingAlone
  dsimp only
  split
  · rename_i definition _ found
    have ofClass : (Tree.classType ⟨false, false⟩ definition).typeNames ⊆ known :=
      Known.tree_iff.mp (Known.some_iff.mp (found ▸ ofType))
    exact Known.tree_iff.mpr ofClass
  · rename_i definition _ found
    have ofEnum : (Tree.enumType ⟨false, false⟩ definition).typeNames ⊆ known :=
      Known.tree_iff.mp (Known.some_iff.mp (found ▸ ofType))
    exact Known.tree_iff.mpr ofEnum
  · rename_i key title _ found
    have ofUse : (Tree.elaboratedType ⟨false, false⟩ (.ofClass key) title).typeNames ⊆ known :=
      Known.tree_iff.mp (Known.some_iff.mp (found ▸ ofType))
    exact Known.tree_iff.mpr ofUse
  · infer_instance

theorem asFunction_known {shape : Declarator} {pointers : Trees .pointerOperator} {title : Name}
    {sig : Tree .signature} (found : shape.asFunction? = some (pointers, title, sig))
    (holds : Known shape known) : Known pointers known ∧ Known title known ∧ Known sig known := by
  unfold Tree.asFunction? at found
  split at found
  · cases found
    have all : pointers.typeNames ++ title.typeNames ++ (sig.typeNames ++ []) ⊆ known :=
      Known.tree_iff.mp holds
    simp only [List.append_subset] at all
    exact ⟨Known.trees_iff.mpr all.1.1, Known.tree_iff.mpr all.1.2, Known.tree_iff.mpr all.2.1⟩
  · cases found

instance simpleForm_accounts (scope : Scope) : Accounts place known (g.simpleForm scope) := by
  unfold Grammar.simpleForm
  refine .andThen inferInstance fun specs => .andThenPlain inferInstance fun ends => ?_
  split
  · infer_instance
  refine .andThen inferInstance fun first => ?_
  split
  · infer_instance
  split
  · rename_i pointers title sig found
    have holds : Known first (known ++ namesIn specs ++ namesIn first) := inferInstance
    obtain ⟨ofPointers, ofTitle, ofSig⟩ := asFunction_known found holds
    infer_instance
  · infer_instance

instance keywordForm_accounts (scope : Scope) (word : Keyword) :
    Accounts place known (g.keywordForm scope word) := by
  unfold Grammar.keywordForm
  refine .byPlace fun there => ?_
  split
  · infer_instance
  · infer_instance
  · infer_instance
  · infer_instance
  · infer_instance
  · infer_instance
  · split <;> infer_instance

instance declarationForm_accounts (scope : Scope) : Accounts place known (g.declarationForm scope) := by
  unfold Grammar.declarationForm
  refine .byPlace fun there => ?_
  split <;> infer_instance

instance (scope : Scope) : Accounts place known (g.declarationRule scope) := by
  unfold Grammar.declarationRule
  infer_instance

instance : Accounts place known g.loneSpecifiers := by
  unfold Grammar.loneSpecifiers
  infer_instance

instance conditionDeclaration_accounts : Accounts place known g.conditionDeclaration := by
  unfold Grammar.conditionDeclaration
  refine .andThenPlain inferInstance fun start => .andThen inferInstance fun specs => ?_
  refine .andThen inferInstance fun shape => .andThen inferInstance fun init => ?_
  split
  · infer_instance
  · infer_instance
  · rename_i init _
    have holds : Known init (known ++ namesIn specs ++ namesIn shape ++ namesIn (some init)) :=
      Known.some_iff.mp inferInstance
    infer_instance

instance : Accounts place known g.rangeDeclaration := by
  unfold Grammar.rangeDeclaration
  infer_instance

end Grammar

end CppSyntax
