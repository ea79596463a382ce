import CppSyntax.Proofs.Indentation.Tree
import CppSyntax.Proofs.Layout.Drawing
import CppSyntax.Render.Unit

/-!
All layouts of a unit have the same tokens. By induction on the tree, what is drawn of a node differs
only in its blanks, and a text without quotes and comments can be read with other blanks as well.
-/

namespace CppSyntax

/-- What is drawn of the node is steady, whatever it depends on. -/
def Node.Steady (node : Node) : Prop := Drawing.Steady node.1 node.2.drawing

namespace Node

variable {c : Category}

theorem trees_steady {items : Trees c} :
    (∀ node ∈ items.nodes, node.Steady) ↔ ∀ item ∈ items.drawn, item.Steady := by
  rw [Trees.nodes, Trees.drawn_eq, List.forall_mem_map, List.forall_mem_map]
  rfl

theorem part_steady {part : Part c} :
    (∀ node ∈ part.nodes, node.Steady) ↔ ∀ inner ∈ part.drawn, inner.Steady := by
  cases part with
  | absent => simp [Part.nodes, Part.toOption, Part.drawn]
  | present inner =>
    simp only [Part.nodes, Part.toOption, Part.drawn, Option.toList_some, List.map_cons, List.map_nil,
      List.mem_singleton, forall_eq, Option.mem_some_iff, forall_eq']
    rfl

end Node

namespace Tree

open Render Doc

theorem steady_typeSpecifier {tree : Tree .typeSpecifier} (each : ∀ child ∈ tree.parts, child.Steady) :
    Doc.Steady false tree.drawing := by
  cases tree
  all_goals
    simp only [Tree.parts, List.mem_singleton, forall_eq] at each
  case builtinType => exact qualified_steady (.text _)
  case namedType => exact qualified_steady each
  case elaboratedType => exact qualified_steady (((Steady.text _).append (.text _)).append each)
  case decltypeType =>
    exact qualified_steady (Steady.append (.text _) (.parenthesized (Drawn.anyExpression_steady each)))
  case decltypeAuto => exact qualified_steady (.text _)
  case autoType => exact qualified_steady (.text _)
  case classType => exact qualified_steady each
  case enumType => exact qualified_steady each

theorem steady_expression {tree : Expr} (each : ∀ child ∈ tree.parts, child.Steady) :
    Doc.Steady false tree.drawing := by
  cases tree
  all_goals
    simp only [Tree.parts, List.mem_append, List.mem_cons, List.not_mem_nil, or_false, or_imp,
      forall_and, forall_eq, Node.trees_steady, Node.part_steady] at each
  case literal => exact .text _
  case nameExpression => exact each
  case this => exact .text _
  case binary => exact binary_steady each.1 each.2
  case assignment => exact assignment_steady each.1 each.2
  case unary => exact unary_steady each
  case call => exact call_steady each.1 each.2
  case index => exact index_steady each.1 each.2
  case member => exact member_steady each.1 each.2
  case cast => exact cast_steady each.1 each.2
  case conditional => exact conditional_steady each.1 each.2.1 each.2.2
  case braced =>
    exact (Steady.ifPresent (Option.forall_mem_map.mpr each.1)).append (Drawn.bracedList_steady each.2)
  case sizeof => exact (Steady.text _).append (.enclosed each)
  case alignof => exact (Steady.text _).append (.parenthesized (TypeDoc.Steady.doc each))
  case newExpression =>
    obtain ⟨⟨⟨placed, typed⟩, sized⟩, begun⟩ := each
    exact newExpression_steady placed typed sized (Option.forall_mem_map.mpr begun)
  case deleteExpression => exact deleteExpression_steady each
  case throwExpression => exact throwExpression_steady each
  case lambda =>
    obtain ⟨⟨⟨⟨captured, listed⟩, excepted⟩, returned⟩, inside⟩ := each
    exact lambda_steady (List.forall_mem_map.mpr captured) (Option.forall_mem_map.mpr listed)
      (Option.forall_mem_map.mpr excepted) (Option.forall_mem_map.mpr returned) inside
  case packExpansion => exact Steady.append (Drawn.operand_steady _ each) (.text _)
  case fold => exact fold_steady each.1 each.2
  case noexceptExpression => exact noexceptExpression_steady each
  case typeid => exact (Steady.text _).append (.enclosed each)

theorem steady_declarationForm {tree : Tree .declarationForm}
    (each : ∀ child ∈ tree.parts, child.Steady) : Doc.Steady false tree.drawing := by
  cases tree
  all_goals
    simp only [Tree.parts, List.mem_append, List.mem_cons, List.not_mem_nil, or_false, or_imp,
      forall_and, forall_eq, Node.trees_steady, Node.part_steady] at each
  case namespaceBlock => exact namespaceBlock_steady each
  case namespaceAlias =>
    exact ((((Steady.text _).append (.text _)).append (.text _)).append each).append (.text _)
  case forwardClass => exact (((Steady.text _).append (.text _)).append each).append (.text _)
  case classDeclaration => exact Steady.append each (.text _)
  case function =>
    obtain ⟨⟨⟨⟨before, pointed⟩, named, signed⟩, listed⟩, inside⟩ := each
    exact function_steady before pointed named signed (List.forall_mem_map.mpr listed) inside
  case «variable» => exact variableList_steady each.1 (List.forall_mem_map.mpr each.2)
  case typedef => exact typedef_steady each.1 (List.forall_mem_map.mpr each.2)
  case typeAlias =>
    have target := TypeDoc.Steady.doc each
    exact ((((Steady.text _).append (.text _)).append (.text _)).append target).append (.text _)
  case template => exact template_steady (List.forall_mem_map.mpr each.1) each.2
  case enumDeclaration => exact Steady.append each (.text _)
  case usingDirective => exact ((Steady.text _).append each).append (.text _)
  case usingDeclaration => exact (((Steady.text _).append (.onlyIf _ _)).append each).append (.text _)
  case linkageBlock => exact linkageBlock_steady each
  case linkageSingle => exact linkageSingle_steady each
  case staticAssert => exact staticAssert_steady each.1 each.2
  case accessLabel => exact .text _
  case directive => exact .text _

theorem steady_statementForm {tree : Tree .statementForm}
    (each : ∀ child ∈ tree.parts, child.Steady) : Doc.Steady false tree.drawing := by
  cases tree
  all_goals
    simp only [Tree.parts, List.mem_append, List.mem_cons, List.not_mem_nil, or_false, or_imp,
      forall_and, forall_eq, Node.trees_steady, Node.part_steady] at each
  case expressionStatement => exact expressionStatement_steady each
  case compound => exact each
  case ifStatement =>
    obtain ⟨⟨begun, tested, inside⟩, other⟩ := each
    exact ifStatement_steady (Option.forall_mem_map.mpr begun) tested inside other
  case forStatement =>
    obtain ⟨⟨⟨begun, tested⟩, stepped⟩, inside⟩ := each
    exact forStatement_steady (Option.forall_mem_map.mpr begun) (Option.forall_mem_map.mpr tested)
      stepped inside
  case rangeFor =>
    obtain ⟨begun, declared, ranged, inside⟩ := each
    exact rangeFor_steady (Option.forall_mem_map.mpr begun) declared ranged inside
  case whileStatement => exact whileStatement_steady each.1 each.2
  case doStatement => exact doStatement_steady each.1 each.2
  case switchStatement =>
    obtain ⟨begun, tested, inside⟩ := each
    exact switchStatement_steady (Option.forall_mem_map.mpr begun) tested inside
  case caseLabel => exact Steady.append (Steady.append (.text _) (Drawn.operand_steady _ each)) (.text _)
  case returnStatement => exact returnStatement_steady each
  case declarationStatement => exact completed_steady each
  case tryStatement => exact tryStatement_steady each.1 (List.forall_mem_map.mpr each.2)
  all_goals exact .text _

/-- A node is steady if all nodes right below it are. -/
theorem steady_of_parts {c : Category} {tree : Tree c} (each : ∀ child ∈ tree.parts, child.Steady) :
    Drawing.Steady c tree.drawing := by
  cases c
  case typeSpecifier => exact steady_typeSpecifier each
  case declarationForm => exact steady_declarationForm each
  case statementForm => exact steady_statementForm each
  case expression => exact steady_expression each
  all_goals cases tree
  all_goals
    simp only [Tree.parts, List.mem_append, List.mem_cons, List.not_mem_nil, or_false, or_imp,
      forall_and, forall_eq, Node.trees_steady, Node.part_steady] at each
  case segment.plainSegment => exact segment_steady (.text _)
  case segment.templateSegment =>
    have arguments := templateArguments_steady (List.forall_mem_map.mpr each)
    exact segment_steady ((Steady.text _).append arguments)
  case segment.destructorSegment => exact segment_steady ((Steady.text _).append (.text _))
  case segment.operatorSegment => exact segment_steady (operatorName_steady _)
  case segment.conversionSegment =>
    exact segment_steady ((Steady.text _).append (TypeDoc.Steady.doc each))
  case name.qualifiedName => exact qualifiedName_steady (List.forall_mem_map.mpr each)
  case templateArgument.typeArgument => exact TypeDoc.Steady.doc each
  case templateArgument.valueArgument => exact valueArgument_steady each
  case templateArgument.packArgument => exact Steady.append each (.text _)
  case pointerOperator.pointer => exact (Steady.text _).append (trailingQualifiers_steady _)
  case pointerOperator.lvalueReference => exact Steady.text _
  case pointerOperator.rvalueReference => exact Steady.text _
  case pointerOperator.memberPointer =>
    exact (Steady.append each (.text _)).append (trailingQualifiers_steady _)
  case declaratorCore.unnamed => exact Steady.empty
  case declaratorCore.declaredName => exact each
  case declaratorCore.nestedDeclarator => exact (DeclaratorDoc.Steady.standalone each).parenthesized
  case declaratorCore.bindings => exact ((Steady.text _).append (.text _)).append (.text _)
  case exceptionSpec.noexceptSpec => exact noexceptSpec_steady each
  case exceptionSpec.throwSpec => exact throwSpec_steady (List.forall_mem_map.mpr each)
  case signature.signature =>
    obtain ⟨⟨listed, excepted⟩, returned⟩ := each
    exact signature_steady listed (Option.forall_mem_map.mpr excepted)
      (Option.forall_mem_map.mpr returned)
  case parameterList.parameterList =>
    exact parameterList_steady (List.forall_mem_map.mpr fun item member => each item member false)
  case declaratorSuffix.arraySuffix => exact arraySuffix_steady each
  case declaratorSuffix.functionSuffix => exact each
  case declarator.declarator =>
    exact declarator_steady each.1.1 each.1.2 (List.forall_mem_map.mpr each.2)
  case typeId.typeId => exact ⟨each.1, each.2⟩
  case specifiers.specifiers => exact specifiers_steady (Option.forall_mem_map.mpr each)
  case parameter.parameter => exact fun _ => parameter_steady each.1.1 each.1.2 each.2
  case initializer.assignInit => exact fun _ => assignInit_steady each
  case initializer.parenInit => exact fun _ => parenInit_steady each
  case initializer.braceInit => exact fun _ => Drawn.bracedList_steady each
  case initDeclarator.initDeclarator =>
    obtain ⟨⟨declared, width⟩, begun⟩ := each
    exact fun _ => initDeclarator_steady declared width (Option.forall_mem_map.mpr begun)
  case memberInit.memberInit => exact memberInit_steady each.1 each.2
  case functionBody.defined => exact Steady.beforeBrace.append each
  case functionBody.declaredOnly => exact Steady.text _
  case functionBody.defaulted => exact Steady.text _
  case functionBody.deleted => exact Steady.text _
  case functionBody.pureVirtual => exact Steady.text _
  case base.base => exact base_steady each
  case classSpecifier.classSpecifier =>
    obtain ⟨⟨titled, based⟩, inside⟩ := each
    exact classSpecifier_steady (Option.forall_mem_map.mpr titled) (List.forall_mem_map.mpr based) inside
  case enumerator.enumerator =>
    exact (Steady.text _).append (.present fun inner member =>
      (Steady.text " = ").append (Drawn.operand_steady _ (each inner member)))
  case enumSpecifier.bodilessEnum =>
    obtain ⟨titled, based⟩ := each
    exact enumHead_steady (fun _ same => Option.some.inj same ▸ titled) (Option.forall_mem_map.mpr based)
  case enumSpecifier.enumSpecifier =>
    obtain ⟨⟨titled, based⟩, inside⟩ := each
    exact enumSpecifier_steady (Option.forall_mem_map.mpr titled) (Option.forall_mem_map.mpr based)
      inside
  case templateParameter.typeParameter =>
    exact typeParameter_steady (Option.forall_mem_map.mpr fun inner member =>
      TypeDoc.Steady.doc (each inner member))
  case templateParameter.valueParameter => exact each true
  case templateParameter.templateParameter =>
    exact ((templateHeader_steady (List.forall_mem_map.mpr each.1)).append (.text _)).append
      (typeParameter_steady (Option.forall_mem_map.mpr each.2))
  case declaration.declaration => exact each
  case block.block => exact block_steady each
  case condition.testExpression => exact testExpression_steady each
  case condition.testDeclaration => exact each
  case handler.handler => exact handler_steady (Option.forall_mem_map.mpr each.1) each.2
  case statement.statement => exact each
  case operand.typeOperand => exact (TypeDoc.Steady.doc each).parenthesized
  case operand.valueOperand => exact Steady.parenthesized (Drawn.anyExpression_steady each)
  case operand.packOperand => exact Steady.text _
  case capture.captureCopy => exact capture_steady each
  case capture.captureReference => exact (Steady.text _).append (capture_steady each)
  case unit.unit => exact ((declarationLines_spaced each).append (.commentLines _)).steady
  all_goals exact Steady.text _

end Tree

/-- What is drawn of any node is steady. -/
theorem Node.steady (node : Node) : node.Steady :=
  Tree.steady_of_parts fun child _ => Node.steady child
termination_by sizeOf node.2
decreasing_by exact Tree.sizeOf_lt ‹_›

variable {first : RenderOptions} {unit : TranslationUnit}

/-- Two layouts of a unit differ only in their blanks, unless one of them holds quotes or comments. -/
theorem render_respaced (second : RenderOptions) :
    Text.Respaced true (render first unit) (render second unit) :=
  Node.steady unit.node _ _ ⟨rfl, rfl⟩

/-- The rules see the same tokens in all layouts of a unit. -/
theorem render_sameGlyphs (plain : Text.isPlain (render first unit).toList = true)
    (second : RenderOptions) :
    Token.glyphsOf (render first unit) = Token.glyphsOf (render second unit) :=
  Token.glyphsOf_of_alike plain (render_respaced second plain)

end CppSyntax
