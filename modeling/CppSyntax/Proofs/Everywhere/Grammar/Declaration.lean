import CppSyntax.Proofs.Everywhere.Grammar.Expression
import CppSyntax.Grammar.Declaration

/-!
Declarations. The statements in them stand in the bodies of functions.
-/

set_option synthInstance.maxSize 4096

namespace CppSyntax.Grammar

open CppSyntax.Parser

variable {Q : Tree .statementForm → Prop} {g : Grammar Parser} [g.Bearer Q]

instance namespaceForm_builds (isInline : Bool) : Builds Q (g.namespaceForm isInline) := by
  unfold Grammar.namespaceForm
  refine .andThen inferInstance fun _ => .andThen inferInstance fun path => ?_
  split <;> infer_instance

instance : Builds Q g.aliasForm := by
  unfold Grammar.aliasForm
  infer_instance

instance : Builds Q g.usingForm := by
  unfold Grammar.usingForm
  infer_instance

instance (scope : Scope) (purpose : String) : Builds Q (g.requiredDeclaration scope purpose) := by
  unfold Grammar.requiredDeclaration
  infer_instance

instance (scope : Scope) : Builds Q (g.templateForm scope) := by
  unfold Grammar.templateForm
  infer_instance

instance (abi : String) : Builds Q (g.linkageForm abi) := by
  unfold Grammar.linkageForm
  infer_instance

instance : Builds Q g.assertedClauses := by
  unfold Grammar.assertedClauses
  infer_instance

instance : Builds Q g.staticAssertForm := by
  unfold Grammar.staticAssertForm
  infer_instance

instance : Builds Q g.memberInit := by
  unfold Grammar.memberInit
  infer_instance

instance : Builds Q assignedBody := by
  unfold Grammar.assignedBody
  infer_instance

instance : Builds Q g.functionBody := by
  unfold Grammar.functionBody
  infer_instance

instance {specs : ParsedSpecifiers} {pointers : Trees .pointerOperator} {title : Name}
    {sig : Tree .signature} [Throughout Q specs] [Throughout Q pointers] [Throughout Q title]
    [Throughout Q sig] : Builds Q (g.functionForm specs pointers title sig) := by
  unfold Grammar.functionForm
  infer_instance

instance : Builds Q g.initializer := by
  unfold Grammar.initializer
  infer_instance

instance memberDeclarator_builds (scope : Scope) : Builds Q (g.memberDeclarator scope) := by
  have plain : Throughout Q Tree.plainDeclarator := by
    unfold Tree.plainDeclarator
    infer_instance
  unfold Grammar.memberDeclarator
  infer_instance

instance (scope : Scope) : Builds Q (g.bitWidth scope) := by
  unfold Grammar.bitWidth
  infer_instance

instance initDeclarators_builds (scope : Scope) {first : Declarator} [Throughout Q first] :
    Builds Q (g.initDeclarators scope first) := by
  have step (read : Bearing Q (List (Tree .initDeclarator) × Declarator)) : Builds Q (do
      let width ← g.bitWidth scope
      let init ← g.initializer
      let found := read.value.1 ++ [.initDeclarator read.value.2 (.ofOption width) (.ofOption init)]
      unless ← accept .comma do return .inr found
      return .inl (found, ← g.memberDeclarator scope) :
        Parser ((List (Tree .initDeclarator) × Declarator) ⊕ List (Tree .initDeclarator))) :=
    inferInstance
  unfold Grammar.initDeclarators
  exact @Builds.loop _ _ _ _ _ _ _ step _ inferInstance

instance {specs : ParsedSpecifiers} {first : Declarator} [Throughout Q specs] [Throughout Q first] :
    Builds Q (g.typedefForm specs first) := by
  unfold Grammar.typedefForm
  infer_instance

instance (scope : Scope) {specs : ParsedSpecifiers} {first : Declarator} [Throughout Q specs]
    [Throughout Q first] : Builds Q (g.variableForm scope specs first) := by
  unfold Grammar.variableForm
  infer_instance

instance standingAlone_throughout {specs : ParsedSpecifiers} [all : Throughout Q specs] :
    Throughout Q (Tree.standingAlone specs) := by
  have all : Throughout Q specs.type := inferInstance
  unfold Tree.standingAlone
  dsimp only
  split
  · rename_i definition _ found
    rw [found] at all
    have all := (Throughout.cons_iff.mp (Throughout.some_iff.mp all).parts).1
    infer_instance
  · rename_i definition _ found
    rw [found] at all
    have all := (Throughout.cons_iff.mp (Throughout.some_iff.mp all).parts).1
    infer_instance
  · rename_i key title _ found
    rw [found] at all
    have all := (Throughout.cons_iff.mp (Throughout.some_iff.mp all).parts).1
    infer_instance
  · infer_instance

omit [g.Bearer Q] in
theorem throughout_of_asFunction? {shape : Declarator} {pointers : Trees .pointerOperator} {title : Name}
    {sig : Tree .signature} (found : shape.asFunction? = some (pointers, title, sig))
    (all : Throughout Q shape) : Throughout Q pointers ∧ Throughout Q title ∧ Throughout Q sig := by
  unfold Tree.asFunction? at found
  split at found
  · cases found
    obtain ⟨front, suffixes⟩ := Throughout.append_iff.mp all.parts
    obtain ⟨pointers, core⟩ := Throughout.append_iff.mp front
    have title := (Throughout.cons_iff.mp (Throughout.cons_iff.mp core).1.parts).1
    have sig := (Throughout.cons_iff.mp (Throughout.cons_iff.mp suffixes).1.parts).1
    exact ⟨⟨pointers.everywhere⟩, title, sig⟩
  · cases found

instance simpleForm_builds (scope : Scope) : Builds Q (g.simpleForm scope) := by
  unfold Grammar.simpleForm
  refine .andThen inferInstance fun specs => .andThen inferInstance fun alone => ?_
  refine @Builds.branch _ _ _ _ _ _ _ inferInstance (.andThen inferInstance fun first => ?_)
  refine @Builds.branch _ _ _ _ _ _ _ inferInstance ?_
  split
  · rename_i pointers title sig found
    obtain ⟨allPointers, allTitle, allSig⟩ := throughout_of_asFunction? found first.all
    infer_instance
  · infer_instance

instance keywordForm_builds (scope : Scope) (word : Keyword) : Builds Q (g.keywordForm scope word) := by
  unfold Grammar.keywordForm
  refine .andThen inferInstance fun place => ?_
  split
  case h_7 => split <;> infer_instance
  all_goals infer_instance

instance declarationForm_builds (scope : Scope) : Builds Q (g.declarationForm scope) := by
  unfold Grammar.declarationForm
  refine .andThen inferInstance fun place => ?_
  split <;> infer_instance

instance (scope : Scope) : Builds Q (g.declarationRule scope) := by
  unfold Grammar.declarationRule
  infer_instance

instance : Builds Q g.loneSpecifiers := by
  unfold Grammar.loneSpecifiers
  infer_instance

instance conditionDeclaration_builds : Builds Q g.conditionDeclaration := by
  unfold Grammar.conditionDeclaration
  refine .andThen inferInstance fun place => .andThen inferInstance fun specs => ?_
  refine .andThen inferInstance fun shape => .andThen inferInstance fun init => ?_
  obtain ⟨init, all⟩ := init
  rcases init with _ | init
  · infer_instance
  · have all : Throughout Q init := Throughout.some_iff.mp all
    cases init <;> infer_instance

instance : Builds Q g.rangeDeclaration := by
  unfold Grammar.rangeDeclaration
  infer_instance

end CppSyntax.Grammar
