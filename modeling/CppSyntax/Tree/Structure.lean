import CppSyntax.Tree.Basic

/-!
Structure of a tree without its layout. Two units have the same structure when they differ at most in
the places of their nodes and in the comments and empty lines placed there; what is kept before a
closing brace counts as structure.
-/

namespace CppSyntax

/-- The placement that all nodes of an erased tree share. -/
def Placement.erased : Placement := .bare ⟨0, 0⟩

/-- What is left of placements and of the comments kept before closing braces when some of the layout
of a tree is left out. -/
structure Erasure where
  place : Placement → Placement
  closing : List String → List String

namespace Erasure

/-- Everything is left. -/
def nothing : Erasure := ⟨id, id⟩

/-- No placements are left. -/
def places : Erasure := ⟨fun _ => .erased, id⟩

/-- Neither placements nor comments are left. -/
def layout : Erasure := ⟨fun _ => .erased, fun _ => []⟩

end Erasure

mutual

/-- The tree without what is to be erased. -/
def Tree.without (erasure : Erasure) {c : Category} : Tree c → Tree c
  | .plainSegment ident marked => .plainSegment ident marked
  | .templateSegment ident arguments marked =>
    .templateSegment ident (arguments.without erasure) marked
  | .destructorSegment ident marked => .destructorSegment ident marked
  | .operatorSegment symbol marked => .operatorSegment symbol marked
  | .conversionSegment target marked => .conversionSegment (target.without erasure) marked
  | .qualifiedName isGlobal segments => .qualifiedName isGlobal (segments.without erasure)
  | .typeArgument target => .typeArgument (target.without erasure)
  | .valueArgument value => .valueArgument (value.without erasure)
  | .packArgument pattern => .packArgument (pattern.without erasure)
  | .builtinType cv words => .builtinType cv words
  | .namedType cv target => .namedType cv (target.without erasure)
  | .elaboratedType cv key target => .elaboratedType cv key (target.without erasure)
  | .decltypeType cv value => .decltypeType cv (value.without erasure)
  | .decltypeAuto cv => .decltypeAuto cv
  | .autoType cv => .autoType cv
  | .classType cv definition => .classType cv (definition.without erasure)
  | .enumType cv definition => .enumType cv (definition.without erasure)
  | .pointer cv => .pointer cv
  | .lvalueReference => .lvalueReference
  | .rvalueReference => .rvalueReference
  | .memberPointer scope cv => .memberPointer (scope.without erasure) cv
  | .unnamed => .unnamed
  | .declaredName target => .declaredName (target.without erasure)
  | .nestedDeclarator inner => .nestedDeclarator (inner.without erasure)
  | .bindings names => .bindings names
  | .noexceptSpec holds => .noexceptSpec (holds.without erasure)
  | .throwSpec types => .throwSpec (types.without erasure)
  | .parameterList items variadic => .parameterList (items.without erasure) variadic
  | .signature parameters cv reference exception result =>
    .signature (parameters.without erasure) cv reference (exception.without erasure)
      (result.without erasure)
  | .arraySuffix size => .arraySuffix (size.without erasure)
  | .functionSuffix sig => .functionSuffix (sig.without erasure)
  | .declarator pointers pack core suffixes =>
    .declarator (pointers.without erasure) pack (core.without erasure) (suffixes.without erasure)
  | .typeId spec shape => .typeId (spec.without erasure) (shape.without erasure)
  | .specifiers attributes alignment modifiers type =>
    .specifiers attributes alignment modifiers (type.without erasure)
  | .parameter specs shape fallback =>
    .parameter (specs.without erasure) (shape.without erasure) (fallback.without erasure)
  | .assignInit value => .assignInit (value.without erasure)
  | .parenInit values => .parenInit (values.without erasure)
  | .braceInit values => .braceInit (values.without erasure)
  | .initDeclarator shape bitWidth init =>
    .initDeclarator (shape.without erasure) (bitWidth.without erasure) (init.without erasure)
  | .memberInit target init pack => .memberInit (target.without erasure) (init.without erasure) pack
  | .declaredOnly => .declaredOnly
  | .defined body => .defined (body.without erasure)
  | .defaulted => .defaulted
  | .deleted => .deleted
  | .pureVirtual => .pureVirtual
  | .base access isVirtual target pack => .base access isVirtual (target.without erasure) pack
  | .classSpecifier key attributes alignment title isFinal bases members closing =>
    .classSpecifier key attributes alignment (title.without erasure) isFinal (bases.without erasure)
      (members.without erasure) (erasure.closing closing)
  | .enumerator ident value place => .enumerator ident (value.without erasure) (erasure.place place)
  | .bodilessEnum key title underlying =>
    .bodilessEnum key (title.without erasure) (underlying.without erasure)
  | .enumSpecifier key title underlying enumerators =>
    .enumSpecifier key (title.without erasure) (underlying.without erasure)
      (enumerators.without erasure)
  | .typeParameter key pack ident fallback =>
    .typeParameter key pack ident (fallback.without erasure)
  | .valueParameter inner => .valueParameter (inner.without erasure)
  | .templateParameter inner key pack ident fallback =>
    .templateParameter (inner.without erasure) key pack ident (fallback.without erasure)
  | .declaration place form => .declaration (erasure.place place) (form.without erasure)
  | .namespaceBlock path isInline members closing =>
    .namespaceBlock path isInline (members.without erasure) (erasure.closing closing)
  | .namespaceAlias ident target => .namespaceAlias ident (target.without erasure)
  | .forwardClass key title => .forwardClass key (title.without erasure)
  | .classDeclaration definition => .classDeclaration (definition.without erasure)
  | .function specs pointers title sig isOverride isFinal inits body =>
    .function (specs.without erasure) (pointers.without erasure) (title.without erasure)
      (sig.without erasure) isOverride isFinal (inits.without erasure) (body.without erasure)
  | .variable specs shapes => .variable (specs.without erasure) (shapes.without erasure)
  | .typedef specs shapes => .typedef (specs.without erasure) (shapes.without erasure)
  | .typeAlias ident target => .typeAlias ident (target.without erasure)
  | .template params isInstantiation inner =>
    .template (params.without erasure) isInstantiation (inner.without erasure)
  | .enumDeclaration definition => .enumDeclaration (definition.without erasure)
  | .usingDirective target => .usingDirective (target.without erasure)
  | .usingDeclaration isTypename target => .usingDeclaration isTypename (target.without erasure)
  | .linkageBlock abi members => .linkageBlock abi (members.without erasure)
  | .linkageSingle abi inner => .linkageSingle abi (inner.without erasure)
  | .staticAssert holds message => .staticAssert (holds.without erasure) (message.without erasure)
  | .accessLabel access => .accessLabel access
  | .directive text => .directive text
  | .statement place form => .statement (erasure.place place) (form.without erasure)
  | .block statements closing => .block (statements.without erasure) (erasure.closing closing)
  | .testExpression value => .testExpression (value.without erasure)
  | .testDeclaration inner => .testDeclaration (inner.without erasure)
  | .handler param body => .handler (param.without erasure) (body.without erasure)
  | .expressionStatement value => .expressionStatement (value.without erasure)
  | .compound body => .compound (body.without erasure)
  | .ifStatement isConstexpr init test thenBranch elseBranch =>
    .ifStatement isConstexpr (init.without erasure) (test.without erasure)
      (thenBranch.without erasure) (elseBranch.without erasure)
  | .forStatement init test step body =>
    .forStatement (init.without erasure) (test.without erasure) (step.without erasure)
      (body.without erasure)
  | .rangeFor init element range body =>
    .rangeFor (init.without erasure) (element.without erasure) (range.without erasure)
      (body.without erasure)
  | .whileStatement test body => .whileStatement (test.without erasure) (body.without erasure)
  | .doStatement body test => .doStatement (body.without erasure) (test.without erasure)
  | .switchStatement init test body =>
    .switchStatement (init.without erasure) (test.without erasure) (body.without erasure)
  | .caseLabel value => .caseLabel (value.without erasure)
  | .defaultLabel => .defaultLabel
  | .returnStatement value => .returnStatement (value.without erasure)
  | .declarationStatement inner => .declarationStatement (inner.without erasure)
  | .breakStatement => .breakStatement
  | .continueStatement => .continueStatement
  | .goto target => .goto target
  | .namedLabel ident => .namedLabel ident
  | .tryStatement body handlers => .tryStatement (body.without erasure) (handlers.without erasure)
  | .emptyStatement => .emptyStatement
  | .typeOperand target => .typeOperand (target.without erasure)
  | .valueOperand value => .valueOperand (value.without erasure)
  | .packOperand ident => .packOperand ident
  | .copyAll => .copyAll
  | .referenceAll => .referenceAll
  | .captureThis => .captureThis
  | .captureCopyOfThis => .captureCopyOfThis
  | .captureCopy ident init pack => .captureCopy ident (init.without erasure) pack
  | .captureReference ident init pack => .captureReference ident (init.without erasure) pack
  | .literal value => .literal value
  | .nameExpression target => .nameExpression (target.without erasure)
  | .this => .this
  | .binary op left right => .binary op (left.without erasure) (right.without erasure)
  | .assignment op target value => .assignment op (target.without erasure) (value.without erasure)
  | .unary op inner => .unary op (inner.without erasure)
  | .call callee values => .call (callee.without erasure) (values.without erasure)
  | .index object position => .index (object.without erasure) (position.without erasure)
  | .member object arrow target => .member (object.without erasure) arrow (target.without erasure)
  | .cast kind target inner => .cast kind (target.without erasure) (inner.without erasure)
  | .conditional test thenValue elseValue =>
    .conditional (test.without erasure) (thenValue.without erasure) (elseValue.without erasure)
  | .braced type values => .braced (type.without erasure) (values.without erasure)
  | .sizeof of => .sizeof (of.without erasure)
  | .alignof target => .alignof (target.without erasure)
  | .newExpression isGlobal placement target size init =>
    .newExpression isGlobal (placement.without erasure) (target.without erasure)
      (size.without erasure) (init.without erasure)
  | .deleteExpression isGlobal isArray inner =>
    .deleteExpression isGlobal isArray (inner.without erasure)
  | .throwExpression inner => .throwExpression (inner.without erasure)
  | .lambda captures parameters isMutable isConstexpr exception result body =>
    .lambda (captures.without erasure) (parameters.without erasure) isMutable isConstexpr
      (exception.without erasure) (result.without erasure) (body.without erasure)
  | .packExpansion pattern => .packExpansion (pattern.without erasure)
  | .fold op left right => .fold op (left.without erasure) (right.without erasure)
  | .noexceptExpression inner => .noexceptExpression (inner.without erasure)
  | .typeid of => .typeid (of.without erasure)
  | .unit declarations closing => .unit (declarations.without erasure) (erasure.closing closing)

def Trees.without (erasure : Erasure) {c : Category} : Trees c → Trees c
  | .nil => .nil
  | .cons head tail => .cons (head.without erasure) (tail.without erasure)

def Part.without (erasure : Erasure) {c : Category} : Part c → Part c
  | .absent => .absent
  | .present inner => .present (inner.without erasure)

end

theorem Trees.without_ofList (erasure : Erasure) (items : List (Tree c)) :
    (Trees.ofList items).without erasure = .ofList (items.map (·.without erasure)) := by
  induction items with
  | nil => rfl
  | cons item items ih =>
    show Trees.cons (item.without erasure) ((Trees.ofList items).without erasure) = _
    rw [ih]
    rfl

theorem Trees.toList_without (erasure : Erasure) (items : Trees c) :
    (items.without erasure).toList = items.toList.map (·.without erasure) := by
  rw [← items.ofList_toList, without_ofList, toList_ofList, toList_ofList]

theorem Part.without_ofOption (erasure : Erasure) (part : Option (Tree c)) :
    (Part.ofOption part).without erasure = .ofOption (part.map (·.without erasure)) := by
  cases part <;> rfl

/-- The tree with every placement erased. -/
abbrev Tree.erase {c : Category} (tree : Tree c) : Tree c := tree.without .places

abbrev Trees.erase {c : Category} (items : Trees c) : Trees c := items.without .places

abbrev Part.erase {c : Category} (part : Part c) : Part c := part.without .places

/-- Whether two trees have the same structure. -/
def Tree.sameStructure (a b : Tree c) : Bool :=
  decide (a.erase = b.erase)

theorem Tree.sameStructure_iff {a b : Tree c} :
    a.sameStructure b = true ↔ a.erase = b.erase := by
  simp [Tree.sameStructure]

end CppSyntax
