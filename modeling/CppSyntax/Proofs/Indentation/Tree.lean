import CppSyntax.Proofs.Indentation.Drawing

/-!
The text of a unit that has an indented line has at least the blanks of one level. So the two ways to
find that a text is too long agree: by the width of its indentation, and by its length.
-/

namespace CppSyntax

/-- The node is indented, whatever its drawing depends on. -/
def Node.Indented (node : Node) : Prop := Drawing.Indented node.1 node.2.drawing

/-- What is drawn of the nodes in a row is drawn of all of them. -/
theorem Trees.drawn_eq {c : Category} {items : Trees c} :
    items.drawn = items.toList.map fun tree => ⟨tree, tree.drawing⟩ := by
  match items with
  | .nil => rfl
  | .cons head tail => rw [Trees.drawn, Trees.toList, List.map_cons, Trees.drawn_eq]

theorem Trees.any_drawn {c : Category} {items : Trees c} {holds : Tree c → Bool}
    (one : items.toList.any holds = true) : ∃ item ∈ items.drawn, holds item.tree = true := by
  obtain ⟨tree, member, held⟩ := List.any_eq_true.mp one
  rw [Trees.drawn_eq]
  exact ⟨_, List.mem_map.mpr ⟨tree, member, rfl⟩, held⟩

namespace Node

variable {c : Category} {part : Part c}

theorem trees_indented {items : Trees c} :
    (∃ node ∈ items.nodes, node.Indented) ↔ AnyIndented items.drawn := by
  rw [Trees.nodes, AnyIndented, Trees.drawn_eq]
  constructor
  · rintro ⟨_, member, indented⟩
    obtain ⟨tree, among, rfl⟩ := List.mem_map.mp member
    exact ⟨_, List.mem_map.mpr ⟨tree, among, rfl⟩, indented⟩
  · rintro ⟨_, member, indented⟩
    obtain ⟨tree, among, rfl⟩ := List.mem_map.mp member
    exact ⟨tree.node, List.mem_map.mpr ⟨tree, among, rfl⟩, indented⟩

theorem part_indented : (∃ node ∈ part.nodes, node.Indented) ↔ PartIndented part.drawn := by
  cases part with
  | absent => simp [Part.nodes, Part.toOption, Part.drawn, PartIndented]
  | present inner =>
    simp only [Part.nodes, Part.toOption, Part.drawn, PartIndented, Option.toList_some, List.map_cons,
      List.map_nil, List.mem_singleton, exists_eq_left, Option.some.injEq, exists_eq_left']
    rfl

end Node

namespace Tree

open Render Doc

theorem indented_typeSpecifier {tree : Tree .typeSpecifier}
    (one : ∃ child ∈ tree.written, child.Indented) : Doc.Indented 0 tree.drawing := by
  cases tree
  all_goals
    simp only [Tree.written, Tree.parts, List.mem_singleton, List.not_mem_nil, false_and, exists_false,
      exists_eq_left] at one
  case namedType => exact qualified_indented one
  case elaboratedType => exact qualified_indented (.append_right one)
  case decltypeType =>
    exact qualified_indented (.append_right (.parenthesized (Drawn.anyExpression_indented one)))
  case classType => exact qualified_indented one
  case enumType => exact qualified_indented one

/-- Braces with nothing between them are not indented. -/
theorem isEmptyBlock_of_indented {body : Tree .block} (indented : body.node.Indented) :
    isEmptyBlock body = false := by
  unfold isEmptyBlock
  split
  · have wide := indented ⟨⟨100, .sameLine⟩, [], 0, false⟩ (Nat.zero_le _)
    exact absurd wide (by decide)
  · rfl

theorem indented_expression {tree : Expr}
    (one : ∃ child ∈ tree.written, child.Indented) : Doc.Indented 0 tree.drawing := by
  cases tree
  all_goals
    simp only [Tree.written, Tree.parts, List.mem_append, List.mem_cons, List.not_mem_nil, or_false,
      or_and_right, exists_or, exists_eq_left, false_and, exists_false, or_assoc, Node.trees_indented,
      Node.part_indented] at one
  case nameExpression => exact one
  case binary => exact binary_indented one
  case assignment => exact assignment_indented one
  case unary => exact unary_indented one
  case call => exact call_indented one
  case index => exact index_indented one
  case member => exact member_indented one
  case cast => exact cast_indented one
  case conditional => exact conditional_indented one
  case braced =>
    rcases one with one | one
    · exact .append_left (one.map fun _ indented => indented)
    · exact .append_right (Drawn.bracedList_indented one)
  case sizeof => exact .append_right (.enclosed one)
  case alignof => exact .append_right (.parenthesized (TypeDoc.Indented.doc one))
  case newExpression => exact newExpression_indented one
  case deleteExpression => exact deleteExpression_indented one
  case throwExpression =>
    exact .append_right (spacedBefore_indented one fun _ => Drawn.operand_indented _)
  case lambda =>
    refine lambda_indented (one.imp_right (Or.imp_right (Or.imp_right (Or.imp_right ?_))))
    exact fun indented => ⟨isEmptyBlock_of_indented indented, indented⟩
  case packExpansion => exact .append_left (Drawn.operand_indented _ one)
  case fold => exact fold_indented one
  case noexceptExpression =>
    exact .append_right (.parenthesized (.enclosed (Drawn.anyExpression_indented one)))
  case typeid => exact .append_right (.enclosed one)

/-- The first declarator stands behind the specifiers. -/
theorem indented_first {shape : Tree .initDeclarator} {specs : Doc} (indented : specs.Indented 0) :
    (shape.drawing (some specs)).Indented 0 := by
  cases shape
  exact initDeclarator_indented (.inl ⟨specs, rfl, indented⟩)

theorem indented_declarationForm {tree : Tree .declarationForm}
    (one : ∃ child ∈ tree.written, child.Indented) : Doc.Indented 0 tree.drawing := by
  cases tree
  case function specs pointers title sig isOverride isFinal inits body =>
    cases body
    all_goals
      simp only [Tree.written, List.mem_append, List.mem_cons, List.not_mem_nil, or_false,
        or_and_right, exists_or, exists_eq_left, or_assoc, Node.trees_indented] at one
    case defined inside =>
      refine function_indented (one.imp_right (Or.imp_right (Or.imp_right (Or.imp_right ?_))))
      exact Or.imp_left fun listed => ⟨⟨inside, rfl⟩, listed⟩
    all_goals
      exact function_indented (one.imp_right (Or.imp_right (Or.imp_right (Or.imp_right .inr))))
  case template params isInstantiation inner =>
    cases isInstantiation with
    | false =>
      simp only [Tree.written, Tree.parts, List.mem_append, List.mem_singleton, or_and_right,
        exists_or, exists_eq_left, Node.trees_indented] at one
      exact template_indented (one.imp_left fun listed => ⟨rfl, listed⟩)
    | true =>
      simp only [Tree.written, List.mem_singleton, exists_eq_left] at one
      exact template_indented (.inr one)
  case typedef specs shapes =>
    cases shapes with
    | nil => simp [Tree.written] at one
    | cons first rest =>
      simp only [Tree.written, Tree.parts, List.mem_append, List.mem_singleton, or_and_right,
        exists_or, exists_eq_left, Node.trees_indented, Trees.drawn] at one
      exact typedef_indented one
  all_goals
    simp only [Tree.written, Tree.parts, List.mem_append, List.mem_cons, List.not_mem_nil, or_false,
      or_and_right, exists_or, exists_eq_left, false_and, exists_false, Node.trees_indented,
      Node.part_indented] at one
  case namespaceBlock => exact namespaceBlock_indented one
  case namespaceAlias => exact .append_left (.append_right one)
  case forwardClass => exact .append_left (.append_right one)
  case classDeclaration => exact .append_left one
  case «variable» specs shapes =>
    cases shapes with
    | nil => exact one.resolve_right (by simp [AnyIndented, Trees.drawn])
    | cons first rest => exact variableList_indented indented_first one
  case typeAlias => exact .append_left (.append_right (TypeDoc.Indented.doc one))
  case enumDeclaration => exact .append_left one
  case usingDirective => exact .append_left (.append_right one)
  case usingDeclaration => exact .append_left (.append_right one)
  case linkageBlock => exact linkageBlock_indented one
  case linkageSingle => exact .append_right (innerDeclaration_indented one)
  case staticAssert => exact staticAssert_indented one

theorem indented_statementForm {tree : Tree .statementForm}
    (one : ∃ child ∈ tree.written, child.Indented) : Doc.Indented 0 tree.drawing := by
  cases tree
  all_goals
    simp only [Tree.written, Tree.parts, List.mem_append, List.mem_cons, List.not_mem_nil, or_false,
      or_and_right, exists_or, exists_eq_left, false_and, exists_false, or_assoc, Node.trees_indented,
      Node.part_indented] at one
  case expressionStatement => exact expressionStatement_indented one
  case compound => exact one
  case ifStatement => exact ifStatement_indented one
  case forStatement => exact forStatement_indented one
  case rangeFor => exact rangeFor_indented one
  case whileStatement => exact whileStatement_indented one
  case doStatement => exact doStatement_indented one
  case switchStatement => exact switchStatement_indented one
  case caseLabel => exact .append_left (.append_right (Drawn.operand_indented _ one))
  case returnStatement => exact returnStatement_indented one
  case declarationStatement => exact completed_indented one
  case tryStatement => exact tryStatement_indented one

/-- What is indented below a node is indented in its own drawing. -/
theorem indented_of_below {c : Category} {tree : Tree c}
    (one : ∃ child ∈ tree.written, child.Indented) : Drawing.Indented c tree.drawing := by
  cases c
  case typeSpecifier => exact indented_typeSpecifier one
  case declarationForm => exact indented_declarationForm one
  case statementForm => exact indented_statementForm one
  case expression => exact indented_expression one
  all_goals cases tree
  all_goals
    simp only [Tree.written, Tree.parts, List.mem_append, List.mem_cons, List.not_mem_nil, or_false,
      or_and_right, exists_or, exists_eq_left, false_and, exists_false, or_assoc, Node.trees_indented,
      Node.part_indented] at one
  case segment.templateSegment =>
    exact segment_indented (.append_right (templateArguments_indented one))
  case segment.conversionSegment =>
    exact segment_indented (.append_right (TypeDoc.Indented.doc one))
  case name.qualifiedName =>
    exact .append_right (.separated (one.map fun _ indented => indented))
  case templateArgument.typeArgument => exact TypeDoc.Indented.doc one
  case templateArgument.valueArgument => exact valueArgument_indented one
  case templateArgument.packArgument => exact .append_left one
  case pointerOperator.memberPointer => exact .append_left (.append_left one)
  case declaratorCore.declaredName => exact one
  case declaratorCore.nestedDeclarator =>
    exact .parenthesized (DeclaratorDoc.Indented.standalone one)
  case exceptionSpec.noexceptSpec => exact noexceptSpec_indented one
  case exceptionSpec.throwSpec => exact throwSpec_indented one
  case signature.signature => exact signature_indented one
  case parameterList.parameterList => exact parameterList_indented one
  case declaratorSuffix.arraySuffix => exact arraySuffix_indented one
  case declaratorSuffix.functionSuffix => exact one
  case declarator.declarator => exact declarator_indented one
  case typeId.typeId => exact one
  case specifiers.specifiers => exact specifiers_indented one
  case parameter.parameter => exact parameter_indented one
  case initializer.assignInit => exact fun _ => .append_right (Drawn.operand_indented _ one)
  case initializer.parenInit => exact parenInit_indented one
  case initializer.braceInit => exact fun _ => Drawn.bracedList_indented one
  case initDeclarator.initDeclarator => exact fun _ => initDeclarator_indented (.inr one)
  case memberInit.memberInit => exact memberInit_indented one
  case functionBody.defined => exact .append_right one
  case base.base => exact .append_left (.append_right one)
  case classSpecifier.classSpecifier => exact classSpecifier_indented one
  case enumerator.enumerator =>
    exact .append_right (one.map fun _ indented => .append_right (Drawn.operand_indented _ indented))
  case enumSpecifier.bodilessEnum => exact enumHead_indented (one.imp_left .append_right)
  case enumSpecifier.enumSpecifier => exact enumSpecifier_indented one
  case templateParameter.typeParameter =>
    exact typeParameter_indented one fun _ indented => TypeDoc.Indented.doc indented
  case templateParameter.valueParameter => exact one true
  case templateParameter.templateParameter =>
    rcases one with one | one
    · exact .append_left (.append_left (templateHeader_indented one))
    · exact .append_right (typeParameter_indented one fun _ indented => indented)
  case declaration.declaration => exact one
  case block.block => exact block_indented one
  case condition.testExpression => exact testExpression_indented one
  case condition.testDeclaration => exact one
  case handler.handler => exact handler_indented one
  case statement.statement => exact one
  case operand.typeOperand => exact .parenthesized (TypeDoc.Indented.doc one)
  case operand.valueOperand => exact .parenthesized (Drawn.anyExpression_indented one)
  case capture.captureCopy => exact capture_indented one
  case capture.captureReference => exact .append_right (capture_indented one)
  case unit.unit => exact .append_left (AnyIndented.lines one)

/-- A node with a line of its own that stands deeper is indented. -/
theorem indented_of_line {c : Category} {tree : Tree c} (line : tree.indentsLine = true) :
    Drawing.Indented c tree.drawing := by
  unfold Tree.indentsLine at line
  split at line
  · refine block_lines ((Bool.or_eq_true_iff.mp line).imp (fun one => ?_) (by simp))
    exact Trees.any_drawn one
  · refine classSpecifier_lines ((Bool.or_eq_true_iff.mp line).imp (fun one => ?_) (by simp))
    exact Trees.any_drawn one
  · refine enumSpecifier_lines fun none => ?_
    rw [Trees.drawn_eq, List.map_eq_nil_iff] at none
    simp [none] at line
  · cases line

end Tree

/-- A node below which a line stands deeper is indented. -/
theorem Node.indented {node : Node} (line : node.hasIndentedLine = true) : node.Indented := by
  rw [Node.hasIndentedLine, Bool.or_eq_true] at line
  rcases line with own | below
  · exact Tree.indented_of_line own
  · obtain ⟨⟨child, written⟩, _, line⟩ := List.any_eq_true.mp below
    exact Tree.indented_of_below ⟨child, written, Node.indented line⟩
termination_by sizeOf node.2
decreasing_by exact Tree.sizeOf_lt (Tree.written_subset _ written)

theorem Node.hasIndentedLine_of_line {node : Node} (line : node.2.indentsLine = true) :
    node.hasIndentedLine = true := by
  rw [Node.hasIndentedLine, line, Bool.true_or]

theorem Node.hasIndentedLine_of_below {node : Node} {holds : Node → Bool}
    (each : ∀ child : Node, holds child = true → child.hasIndentedLine = true)
    (below : node.2.written.any holds = true) : node.hasIndentedLine = true := by
  obtain ⟨child, written, held⟩ := List.any_eq_true.mp below
  rw [Node.hasIndentedLine, Bool.or_eq_true]
  exact .inr (List.any_eq_true.mpr ⟨⟨child, written⟩, List.mem_attach .., each child held⟩)

variable {options : RenderOptions} {unit : TranslationUnit}

/-- One indentation at least is part of a text with an indented line. -/
theorem indentWidth_le (line : unit.node.hasIndentedLine = true) :
    options.indentWidth ≤ (render options unit).utf8ByteSize :=
  Node.indented line ⟨options, unit.typeNames, 0, false⟩ (Nat.zero_le _)

/-- A text is too long if it has more bytes than a text in memory can have. -/
theorem overflows_iff :
    overflows options unit = true ↔ textCapacity < (render options unit).utf8ByteSize := by
  simp only [overflows, Bool.or_eq_true, Bool.and_eq_true, decide_eq_true_eq, or_iff_right_iff_imp]
  rintro ⟨wide, line⟩
  exact Nat.lt_of_lt_of_le wide (indentWidth_le line)

end CppSyntax
