import CppSyntax.Tree.Basic

/-!
The nodes directly below a node, of all categories together.
-/

namespace CppSyntax

/-- A node together with its category. -/
abbrev Node := (c : Category) × Tree c

def Tree.node {c : Category} (tree : Tree c) : Node := ⟨c, tree⟩

def Trees.nodes (items : Trees c) : List Node := items.toList.map (·.node)

def Part.nodes (part : Part c) : List Node := part.toOption.toList.map (·.node)

/-- The nodes directly below a node. -/
@[reducible] def Tree.parts {c : Category} : Tree c → List Node
  | .templateSegment _ arguments _ => arguments.nodes
  | .conversionSegment target _ => [target.node]
  | .qualifiedName _ segments => segments.nodes
  | .typeArgument target => [target.node]
  | .valueArgument value => [value.node]
  | .packArgument pattern => [pattern.node]
  | .namedType _ target => [target.node]
  | .elaboratedType _ _ target => [target.node]
  | .decltypeType _ value => [value.node]
  | .classType _ definition => [definition.node]
  | .enumType _ definition => [definition.node]
  | .memberPointer scope _ => [scope.node]
  | .declaredName target => [target.node]
  | .nestedDeclarator inner => [inner.node]
  | .noexceptSpec holds => holds.nodes
  | .throwSpec types => types.nodes
  | .parameterList items _ => items.nodes
  | .signature parameters _ _ exception result =>
    [parameters.node] ++ exception.nodes ++ result.nodes
  | .arraySuffix size => size.nodes
  | .functionSuffix sig => [sig.node]
  | .declarator pointers _ core suffixes => pointers.nodes ++ [core.node] ++ suffixes.nodes
  | .typeId spec shape => [spec.node, shape.node]
  | .specifiers _ _ _ type => type.nodes
  | .parameter specs shape fallback => [specs.node, shape.node] ++ fallback.nodes
  | .assignInit value => [value.node]
  | .parenInit values => values.nodes
  | .braceInit values => values.nodes
  | .initDeclarator shape bitWidth init => [shape.node] ++ bitWidth.nodes ++ init.nodes
  | .memberInit target init _ => [target.node, init.node]
  | .defined body => [body.node]
  | .base _ _ target _ => [target.node]
  | .classSpecifier _ _ _ title _ bases members _ => title.nodes ++ bases.nodes ++ members.nodes
  | .enumerator _ value _ => value.nodes
  | .bodilessEnum _ title underlying => [title.node] ++ underlying.nodes
  | .enumSpecifier _ title underlying enumerators =>
    title.nodes ++ underlying.nodes ++ enumerators.nodes
  | .typeParameter _ _ _ fallback => fallback.nodes
  | .valueParameter inner => [inner.node]
  | .templateParameter inner _ _ _ fallback => inner.nodes ++ fallback.nodes
  | .declaration _ form => [form.node]
  | .namespaceBlock _ _ members _ => members.nodes
  | .namespaceAlias _ target => [target.node]
  | .forwardClass _ title => [title.node]
  | .classDeclaration definition => [definition.node]
  | .function specs pointers title sig _ _ inits body =>
    [specs.node] ++ pointers.nodes ++ [title.node, sig.node] ++ inits.nodes ++ [body.node]
  | .variable specs shapes => [specs.node] ++ shapes.nodes
  | .typedef specs shapes => [specs.node] ++ shapes.nodes
  | .typeAlias _ target => [target.node]
  | .template params _ inner => params.nodes ++ [inner.node]
  | .enumDeclaration definition => [definition.node]
  | .usingDirective target => [target.node]
  | .usingDeclaration _ target => [target.node]
  | .linkageBlock _ members => members.nodes
  | .linkageSingle _ inner => [inner.node]
  | .staticAssert holds message => [holds.node] ++ message.nodes
  | .statement _ form => [form.node]
  | .block statements _ => statements.nodes
  | .testExpression value => [value.node]
  | .testDeclaration inner => [inner.node]
  | .handler param body => param.nodes ++ [body.node]
  | .expressionStatement value => [value.node]
  | .compound body => [body.node]
  | .ifStatement _ init test thenBranch elseBranch =>
    init.nodes ++ [test.node, thenBranch.node] ++ elseBranch.nodes
  | .forStatement init test step body => init.nodes ++ test.nodes ++ step.nodes ++ [body.node]
  | .rangeFor init element range body => init.nodes ++ [element.node, range.node, body.node]
  | .whileStatement test body => [test.node, body.node]
  | .doStatement body test => [body.node, test.node]
  | .switchStatement init test body => init.nodes ++ [test.node, body.node]
  | .caseLabel value => [value.node]
  | .returnStatement value => value.nodes
  | .declarationStatement inner => [inner.node]
  | .tryStatement body handlers => [body.node] ++ handlers.nodes
  | .typeOperand target => [target.node]
  | .valueOperand value => [value.node]
  | .captureCopy _ init _ => init.nodes
  | .captureReference _ init _ => init.nodes
  | .nameExpression target => [target.node]
  | .binary _ left right => [left.node, right.node]
  | .assignment _ target value => [target.node, value.node]
  | .unary _ inner => [inner.node]
  | .call callee values => [callee.node] ++ values.nodes
  | .index object position => [object.node, position.node]
  | .member object _ target => [object.node, target.node]
  | .cast _ target inner => [target.node, inner.node]
  | .conditional test thenValue elseValue => [test.node, thenValue.node, elseValue.node]
  | .braced type values => type.nodes ++ values.nodes
  | .sizeof of => [of.node]
  | .alignof target => [target.node]
  | .newExpression _ placement target size init =>
    placement.nodes ++ [target.node] ++ size.nodes ++ init.nodes
  | .deleteExpression _ _ inner => [inner.node]
  | .throwExpression inner => inner.nodes
  | .lambda captures parameters _ _ exception result body =>
    captures.nodes ++ parameters.nodes ++ exception.nodes ++ result.nodes ++ [body.node]
  | .packExpansion pattern => [pattern.node]
  | .fold _ left right => left.nodes ++ right.nodes
  | .noexceptExpression inner => [inner.node]
  | .typeid of => [of.node]
  | .unit declarations _ => declarations.nodes
  | .plainSegment .. | .destructorSegment .. | .operatorSegment .. | .builtinType .. | .decltypeAuto _
  | .autoType _ | .pointer _ | .lvalueReference | .rvalueReference | .unnamed | .bindings _
  | .declaredOnly | .defaulted | .deleted | .pureVirtual | .accessLabel _ | .directive _
  | .defaultLabel | .breakStatement | .continueStatement | .goto _ | .namedLabel _ | .emptyStatement
  | .packOperand _ | .copyAll | .referenceAll | .captureThis | .captureCopyOfThis | .literal _
  | .this => []

@[simp] theorem Tree.sizeOf_node (tree : Tree c) : sizeOf tree.node.2 = sizeOf tree := rfl

theorem Trees.sizeOf_lt {items : Trees c} {node : Node} (member : node ∈ items.nodes) :
    sizeOf node.2 < sizeOf items := by
  match items, member with
  | .cons head tail, member =>
    rw [Trees.cons.sizeOf_spec]
    rcases List.mem_cons.mp member with rfl | later
    · rw [Tree.sizeOf_node]
      omega
    · have smaller := sizeOf_lt later
      omega

theorem Part.sizeOf_lt {part : Part c} {node : Node} (member : node ∈ part.nodes) :
    sizeOf node.2 < sizeOf part := by
  cases part with
  | absent => cases member
  | present inner =>
    obtain rfl := List.mem_singleton.mp member
    rw [Tree.sizeOf_node, Part.present.sizeOf_spec]
    omega

theorem Tree.sizeOf_lt {tree : Tree c} {node : Node} (member : node ∈ tree.parts) :
    sizeOf node.2 < sizeOf tree := by
  cases tree
  all_goals simp only [Tree.parts, List.mem_append, List.mem_cons, List.not_mem_nil, or_false] at member
  all_goals repeat' refine Or.elim member (fun member => ?_) (fun member => ?_)
  all_goals first
    | (have below := Trees.sizeOf_lt member; simp; omega)
    | (have below := Part.sizeOf_lt member; simp; omega)
    | (subst member; rw [Tree.sizeOf_node]; simp <;> omega)

end CppSyntax
