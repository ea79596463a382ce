import CppSyntax.Proofs.Origin.Grammar.Operand
import CppSyntax.Grammar.Statement

/-!
Declarations and statements. A typedef and an alias introduce the names that they make known; a function
introduces all that its declarator does but for its pointer operators, which introduce nothing.
-/

set_option synthInstance.maxSize 4096

namespace CppSyntax

open CppSyntax.Parser

namespace Grammar

variable {g : Grammar Parser} [g.Introducing]

instance : Introduces [] g.namespacePath := by
  unfold Grammar.namespacePath
  infer_instance

instance namespaceForm_introduces (isInline : Bool) : Introduces [] (g.namespaceForm isInline) := by
  unfold Grammar.namespaceForm
  refine .andThenPlain inferInstance fun _ => .andThenPlain inferInstance fun path => ?_
  dsimp only
  split <;> infer_instance

instance {ident : String} {target : TypeId} : Covers [ident] (Tree.typeAlias ident target) :=
  Covers.tree_iff.mpr (List.subset_append_left ..)

instance : Introduces [] g.aliasForm := by
  unfold Grammar.aliasForm
  infer_instance

instance : Introduces [] g.usingForm := by
  unfold Grammar.usingForm
  infer_instance

instance (scope : Scope) (purpose : String) : Introduces [] (g.requiredDeclaration scope purpose) := by
  unfold Grammar.requiredDeclaration
  infer_instance

instance (scope : Scope) : Introduces [] (g.templateForm scope) := by
  unfold Grammar.templateForm
  infer_instance

instance (abi : String) : Introduces [] (g.linkageForm abi) := by
  unfold Grammar.linkageForm
  infer_instance

instance : Introduces [] g.assertedClauses := by
  unfold Grammar.assertedClauses
  infer_instance

instance : Introduces [] g.staticAssertForm := by
  unfold Grammar.staticAssertForm
  infer_instance

instance : Introduces [] g.virtualWords := by
  unfold Grammar.virtualWords
  infer_instance

instance : Introduces [] g.memberInit := by
  unfold Grammar.memberInit
  infer_instance

instance : Introduces [] (assignedBody : Parser (Tree .functionBody)) := by
  unfold Grammar.assignedBody
  infer_instance

instance : Introduces [] g.functionBody := by
  unfold Grammar.functionBody
  infer_instance

instance (specs : ParsedSpecifiers) (pointers : Trees .pointerOperator) (title : Name)
    (sig : Tree .signature) : Introduces (namesIn specs ++ (namesIn title ++ namesIn sig))
      (g.functionForm specs pointers title sig) := by
  unfold Grammar.functionForm
  infer_instance

instance : Introduces [] g.initializer := by
  unfold Grammar.initializer
  infer_instance

instance memberDeclarator_introducesFor (scope : Scope) :
    IntroducesFor Tree.coreNames [] (g.memberDeclarator scope) := by
  unfold Grammar.memberDeclarator Tree.plainDeclarator
  have none : IntroducesFor Tree.coreNames [] (pure (.declarator .nil false .unnamed .nil) :
    Parser Declarator) := .answer (List.nil_subset _)
  infer_instance

instance (scope : Scope) : Introduces [] (g.bitWidth scope) := by
  unfold Grammar.bitWidth
  infer_instance

/-- The names of declarators with their initializers, and of one that none is read for yet. -/
def rowNames : List (Tree .initDeclarator) × Declarator ⊕ List (Tree .initDeclarator) → List String :=
  Sum.elim (fun row => namesIn row.1 ++ row.2.coreNames) namesIn

instance initDeclarators_introduces (scope : Scope) (first : Declarator) :
    Introduces first.coreNames (g.initDeclarators scope first) := by
  unfold Grammar.initDeclarators
  refine @IntroducesFor.repeated _ _ rowNames _ (fun (found, shape) => ?_) _ ([], first)
  refine .andThen inferInstance fun width => .andThen inferInstance fun init => ?_
  refine .andThenPlain inferInstance fun more => ?_
  have covers : Covers (namesIn found ++ shape.coreNames ++ namesIn width ++ namesIn init)
      (found ++ [.initDeclarator shape (.ofOption width) (.ofOption init)]) := inferInstance
  split
  · refine .andThenOf (inferInstance : IntroducesFor Tree.coreNames [] (g.memberDeclarator scope)) ?_
    refine fun next _ => .answer (List.append_subset.mpr ⟨?_, List.subset_append_right ..⟩)
    exact List.subset_append_of_subset_left _ covers.subset
  · exact .answer covers.subset

/-- The names of the declarators of a typedef. -/
def shapeNames (shapes : List Declarator) : List String := shapes.flatMap Tree.coreNames

theorem shapeNames_subset (shapes : List Declarator) : shapeNames shapes ⊆ (Trees.ofList shapes).typeNames := by
  rw [← namesIn_trees, namesIn_ofList]
  intro ident member
  obtain ⟨shape, among, inside⟩ := List.mem_flatMap.mp member
  have below := shape.coreNames_subset inside
  rw [namesIn_tree] at below
  exact List.mem_flatMap.mpr
    ⟨shape.node, List.mem_flatMap.mpr ⟨shape, among, List.mem_singleton_self _⟩, below⟩

/-- A typedef introduces the names that its declarators declare. -/
instance typedefForm_introduces (specs : ParsedSpecifiers) (first : Declarator) :
    Introduces (namesIn specs ++ first.coreNames) (g.typedefForm specs first) := by
  unfold Grammar.typedefForm
  have listed : IntroducesFor shapeNames (shapeNames [first]) (g.loop (fun shapes => do
      unless ← accept .comma do return .inr shapes
      return .inl (shapes ++ [← g.declarator .named])) [first] : Parser (List Declarator)) := by
    refine @IntroducesFor.repeated _ _ (Sum.elim shapeNames shapeNames) _ (fun shapes => ?_) _ [first]
    refine .andThenPlain inferInstance fun more => ?_
    split
    · refine .andThenOf (inferInstance : IntroducesFor Tree.coreNames [] (g.declarator .named)) ?_
      exact fun shape _ => .answer (by simp [shapeNames])
    · exact .answer (List.Subset.refl _)
  rw [show first.coreNames = shapeNames [first] by simp [shapeNames]]
  refine .andThenOver listed fun shapes => .andThenPlain inferInstance fun _ => ?_
  refine .andThenOf (.declareTypes (List.Subset.refl _)) fun _ _ => .answer ?_
  have ofSpecs : namesIn specs ⊆ specs.tree.typeNames := Covers.tree_iff.mp inferInstance
  have ofShapes := shapeNames_subset shapes
  rw [namesIn_tree]
  show _ ⊆ (Trees.ofList shapes).declaredIdents ++ specs.tree.typeNames ++ (Trees.ofList shapes).typeNames
  intro ident
  simp only [List.mem_append]
  rintro ((inSpecs | inShapes) | declared)
  · exact .inl (.inr (ofSpecs inSpecs))
  · exact .inr (ofShapes inShapes)
  · exact .inl (.inl declared)

instance variableForm_introduces (scope : Scope) (specs : ParsedSpecifiers) (first : Declarator) :
    Introduces (namesIn specs ++ first.coreNames) (g.variableForm scope specs first) := by
  unfold Grammar.variableForm
  have rest : Introduces (namesIn specs ++ first.coreNames) (do
      let shapes ← g.initDeclarators scope first
      expect .semicolon "after declaration"
      return .variable specs.tree (.ofList shapes) : Parser (Tree .declarationForm)) :=
    .andThenOver (inferInstance : Introduces first.coreNames (g.initDeclarators scope first))
      fun shapes => inferInstance
  infer_instance

/-- What specifiers declare on their own introduces what their type does. -/
instance standingAlone_covers (specs : ParsedSpecifiers) :
    Covers (namesIn specs) (Tree.standingAlone specs) := by
  have ofType : Covers (namesIn specs) specs.type := inferInstance
  unfold Tree.standingAlone
  dsimp only
  split
  · rename_i definition _ found
    have ofClass : namesIn specs ⊆ (Tree.classType ⟨false, false⟩ definition).typeNames :=
      Covers.tree_iff.mp (Covers.some_iff.mp (found ▸ ofType))
    exact Covers.tree_iff.mpr ofClass
  · rename_i definition _ found
    have ofEnum : namesIn specs ⊆ (Tree.enumType ⟨false, false⟩ definition).typeNames :=
      Covers.tree_iff.mp (Covers.some_iff.mp (found ▸ ofType))
    exact Covers.tree_iff.mpr ofEnum
  · rename_i key title _ found
    have ofUse : namesIn specs ⊆ (Tree.elaboratedType ⟨false, false⟩ (.ofClass key) title).typeNames :=
      Covers.tree_iff.mp (Covers.some_iff.mp (found ▸ ofType))
    exact Covers.tree_iff.mpr ofUse
  · infer_instance

theorem coreNames_asFunction {shape : Declarator} {pointers : Trees .pointerOperator} {title : Name}
    {sig : Tree .signature} (found : shape.asFunction? = some (pointers, title, sig)) :
    shape.coreNames = namesIn title ++ namesIn sig := by
  unfold Tree.asFunction? at found
  split at found
  · cases found
    rw [namesIn_tree, namesIn_tree]
    exact congrArg (title.typeNames ++ ·) (List.append_nil _)
  · cases found

instance simpleForm_introduces (scope : Scope) : Introduces [] (g.simpleForm scope) := by
  unfold Grammar.simpleForm
  refine .andThen inferInstance fun specs => .andThenPlain inferInstance fun ends => ?_
  rw [List.nil_append]
  split
  · infer_instance
  refine .andThenOf (inferInstance : IntroducesFor Tree.coreNames [] (g.memberDeclarator scope)) ?_
  intro first _
  split
  · infer_instance
  split
  · rename_i pointers title sig found
    have function : Introduces (namesIn specs ++ first.coreNames)
        (g.functionForm specs pointers title sig) := by
      rw [coreNames_asFunction found]
      infer_instance
    infer_instance
  · infer_instance

instance keywordForm_introduces (scope : Scope) (word : Keyword) :
    Introduces [] (g.keywordForm scope word) := by
  unfold Grammar.keywordForm
  refine .byPlace fun place => ?_
  split
  · infer_instance
  · infer_instance
  · infer_instance
  · infer_instance
  · infer_instance
  · infer_instance
  · split <;> infer_instance

instance declarationForm_introduces (scope : Scope) : Introduces [] (g.declarationForm scope) := by
  unfold Grammar.declarationForm
  refine .byPlace fun place => ?_
  split <;> infer_instance

instance (scope : Scope) : Introduces [] (g.declarationRule scope) := by
  unfold Grammar.declarationRule
  infer_instance

instance : Introduces [] g.loneSpecifiers := by
  unfold Grammar.loneSpecifiers
  infer_instance

instance conditionDeclaration_introduces : Introduces [] g.conditionDeclaration := by
  unfold Grammar.conditionDeclaration
  refine .andThenPlain inferInstance fun start => .andThen inferInstance fun specs => ?_
  refine .andThenOf (inferInstance : IntroducesFor Tree.coreNames [] (g.declarator .named)) ?_
  refine fun shape _ => .andThen inferInstance fun init => ?_
  split <;> infer_instance

instance : Introduces [] g.rangeDeclaration := by
  unfold Grammar.rangeDeclaration
  infer_instance

instance asStatement_covers {before : List String} {inner : Declaration} [covers : Covers before inner] :
    Covers before inner.asStatement := by
  cases inner with
  | declaration start form =>
    have same : before ⊆ (Tree.declaration start form).typeNames := Covers.tree_iff.mp covers
    exact Covers.tree_iff.mpr same

instance : Introduces [] g.declarationStatement := by
  unfold Grammar.declarationStatement
  infer_instance

instance : Introduces [] g.expressionStatement := by
  unfold Grammar.expressionStatement
  infer_instance

/-- What is done after the trial of a declaration, which may have failed. -/
theorem evaluated_introduces (declared : Option (Except SyntaxError Statement)) :
    Introduces [] (do
      match ← speculate g.expressionStatement, declared with
      | .ok statement, _ => return statement
      | .error error, some (.error earlier) => failWith (earlier.further error)
      | .error error, _ => failWith error : Parser Statement) := by
  refine .speculateThen inferInstance (fun value => inferInstance) fun error => ?_
  rcases declared with _ | (earlier | statement) <;> infer_instance

instance eitherStatement_introduces : Introduces [] g.eitherStatement := by
  unfold Grammar.eitherStatement
  refine .andThenPlain inferInstance fun ahead => ?_
  dsimp only
  split
  · rw [Parser.map_bind]
    refine .speculateThen inferInstance (fun value => inferInstance) fun error => ?_
    exact evaluated_introduces (some (.error error))
  · exact evaluated_introduces none

instance declarationOrExpression_introduces : Introduces [] g.declarationOrExpression := by
  unfold Grammar.declarationOrExpression
  refine .byPlace fun place => ?_
  split <;> infer_instance

instance : Introduces [] g.condition := by
  unfold Grammar.condition
  infer_instance

instance : Introduces [] g.initAndCondition := by
  unfold Grammar.initAndCondition
  infer_instance

instance : Introduces [] g.ifForm := by
  unfold Grammar.ifForm
  infer_instance

instance : Introduces [] g.whileForm := by
  unfold Grammar.whileForm
  infer_instance

instance : Introduces [] g.doForm := by
  unfold Grammar.doForm
  infer_instance

instance : Introduces [] g.switchForm := by
  unfold Grammar.switchForm
  infer_instance

instance {before : List String} {init : Option Statement} {test : Option (Tree .condition)}
    {step : Option Expr} [covers : Covers before (init, test, step)] :
    Covers before (LoopHeader.counted init test step) :=
  ⟨covers.subset⟩

instance (init : Option Statement) : Introduces (namesIn init) (g.countedHeader init) := by
  unfold Grammar.countedHeader
  infer_instance

instance {before : List String} {init : Option Statement} {element : Declaration} {range : Expr}
    [covers : Covers before (init, Tree.declarationStatement element, range)] :
    Covers before (LoopHeader.ranged init element range) :=
  ⟨covers.subset⟩

instance (init : Option Statement) : Introduces (namesIn init) (g.rangedHeader init) := by
  unfold Grammar.rangedHeader
  infer_instance

instance [HasNodes α] {value : α} {init : Option Statement} {test : Option (Tree .condition)}
    {step : Option Expr} [covers : Covers (namesIn (init, test, step)) value] :
    Covers (namesIn (LoopHeader.counted init test step)) value :=
  ⟨covers.subset⟩

instance [HasNodes α] {value : α} {init : Option Statement} {element : Declaration} {range : Expr}
    [covers : Covers (namesIn (init, Tree.declarationStatement element, range)) value] :
    Covers (namesIn (LoopHeader.ranged init element range)) value :=
  ⟨covers.subset⟩

instance rangeElement_covers {element : Declaration} {value : Tree c}
    [covers : Covers (namesIn element) value] :
    Covers (namesIn (Tree.declarationStatement element)) value := by
  have same : namesIn (Tree.declarationStatement element) = namesIn element := by
    rw [namesIn_tree, namesIn_tree]
    rfl
  exact ⟨same ▸ covers.subset⟩

instance loopHeader_introduces : Introduces [] g.loopHeader := by
  unfold Grammar.loopHeader
  have counted : Introduces [] (g.countedHeader none) :=
    inferInstanceAs (Introduces (namesIn (none : Option Statement)) (g.countedHeader none))
  have ranged : Introduces [] (g.rangedHeader none) :=
    inferInstanceAs (Introduces (namesIn (none : Option Statement)) (g.rangedHeader none))
  -- The statement before the first semicolon is handed on to either header.
  have either (init : Statement) : Introduces (namesIn init) (do
      if let some header ← attempt (g.rangedHeader (some init)) then return header
      g.countedHeader (some init) : Parser LoopHeader) := by
    rw [← namesIn_some]
    refine .attemptThen (inferInstance : Introduces (namesIn (some init)) (g.rangedHeader (some init)))
      (fun header covered => ?_) inferInstance
    have covers : Covers (namesIn (some init)) header := ⟨covered⟩
    infer_instance
  refine .andThenPlain inferInstance fun stray => ?_
  split
  · exact counted
  · exact .attemptThen ranged (fun header _ => inferInstance) (.andThen inferInstance either)

instance forForm_introduces : Introduces [] g.forForm := by
  unfold Grammar.forForm
  refine .andThenPlain inferInstance fun _ => .andThenPlain inferInstance fun _ => ?_
  refine .andThen inferInstance fun header => .andThenPlain inferInstance fun _ => ?_
  refine .andThen inferInstance fun body => ?_
  cases header with
  | counted init test step => infer_instance
  | ranged init element range => infer_instance

instance : Introduces [] g.handlerParameter := by
  unfold Grammar.handlerParameter
  infer_instance

instance : Introduces [] g.handler := by
  unfold Grammar.handler
  infer_instance

instance (handlers : List (Tree .handler)) : Introduces (namesIn handlers) (g.handlerStep handlers) := by
  unfold Grammar.handlerStep
  infer_instance

instance : Introduces [] g.tryForm := by
  unfold Grammar.tryForm
  infer_instance

instance : Introduces [] g.returnForm := by
  unfold Grammar.returnForm
  infer_instance

instance : Introduces [] (gotoForm : Parser (Tree .statementForm)) := by
  unfold Grammar.gotoForm
  infer_instance

instance : Introduces [] g.caseForm := by
  unfold Grammar.caseForm
  infer_instance

instance (form : Tree .statementForm) (close : Punctuator) (purpose : String) :
    Introduces [] (wordForm form close purpose : Parser (Tree .statementForm)) := by
  unfold Grammar.wordForm
  infer_instance

theorem statementKeyword_introduces {word : Keyword} {form : Parser (Tree .statementForm)}
    (found : g.statementKeyword? word = some form) : Introduces [] form := by
  unfold Grammar.statementKeyword? at found
  split at found <;> cases found <;> infer_instance

theorem statementForm_introduces {form : Parser (Tree .statementForm)} {state : State}
    (found : g.statementForm? state = some form) : Introduces [] form := by
  unfold Grammar.statementForm? at found
  split at found
  · cases found
    infer_instance
  · cases found
    infer_instance
  · cases found
    infer_instance
  · exact statementKeyword_introduces found
  · split at found
    · cases found
      infer_instance
    · cases found
  · cases found

instance statementRule_introduces : Introduces [] g.statementRule := by
  unfold Grammar.statementRule
  refine @IntroducesFor.nested _ _ _ _ (.byPlace fun place => ?_)
  split
  · infer_instance
  · rename_i form found
    have introduces : Introduces [] form := statementForm_introduces found
    infer_instance

end Grammar

end CppSyntax
