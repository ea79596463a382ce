import CppSyntax.Render.Expression
import CppSyntax.Render.Statement
import CppSyntax.Tree.Structure

/-!
Rendering of whole trees. One recursion draws every node from the drawings of its parts; the text of
a unit is its drawing laid out at the margin.
-/

namespace CppSyntax

open Render Doc

mutual

/-- What is drawn of a node. -/
def Tree.drawing {c : Category} : Tree c → Drawing c
  | .plainSegment ident marked => segment marked ident
  | .templateSegment ident arguments marked =>
    segment marked (ident ++ templateArguments (arguments.drawn.map (·.drawing)))
  | .destructorSegment ident marked => segment marked ("~" ++ ident)
  | .operatorSegment symbol marked => segment marked (operatorName symbol)
  | .conversionSegment target marked => segment marked ("operator " ++ target.drawing.doc)
  | .qualifiedName isGlobal segments => qualifiedName isGlobal (segments.drawn.map (·.drawing))
  | .typeArgument target => target.drawing.doc
  | .valueArgument value => valueArgument ⟨value, value.drawing⟩
  | .packArgument pattern => pattern.drawing ++ "..."
  | .builtinType cv words => qualified cv (" ".intercalate words)
  | .namedType cv target => qualified cv target.drawing
  | .elaboratedType cv key target => qualified cv (key.spelling ++ " " ++ target.drawing)
  | .decltypeType cv value =>
    qualified cv ("decltype" ++ (Drawn.anyExpression ⟨value, value.drawing⟩).parenthesized)
  | .decltypeAuto cv => qualified cv "decltype(auto)"
  | .autoType cv => qualified cv "auto"
  | .classType cv definition => qualified cv definition.drawing
  | .enumType cv definition => qualified cv definition.drawing
  | .pointer cv => "*" ++ trailingQualifiers cv
  | .lvalueReference => text "&"
  | .rvalueReference => text "&&"
  | .memberPointer scope cv => scope.drawing ++ "::*" ++ trailingQualifiers cv
  | .unnamed => empty
  | .declaredName target => target.drawing
  | .nestedDeclarator inner => inner.drawing.standalone.parenthesized
  | .bindings names => Render.bindings names
  | .noexceptSpec holds => noexceptSpec holds.drawn
  | .throwSpec types => throwSpec (types.drawn.map (·.drawing))
  | .parameterList items variadic => parameterList (items.drawn.map (·.drawing false)) variadic
  | .signature parameters cv reference exception result =>
    signature parameters.drawing cv reference (exception.drawn.map (·.drawing))
      (result.drawn.map (·.drawing))
  | .arraySuffix size => arraySuffix size.drawn
  | .functionSuffix sig => sig.drawing
  | .declarator pointers pack core suffixes =>
    declarator pointers.drawn pack ⟨core, core.drawing⟩ (suffixes.drawn.map (·.drawing))
  | .typeId spec shape => ⟨spec.drawing, shape.drawing⟩
  | .specifiers attributes alignment modifiers type =>
    specifiers attributes alignment modifiers (type.drawn.map (·.drawing))
  | .parameter specs shape fallback => parameter specs.drawing shape.drawing fallback.drawn
  | .assignInit value => fun _ => assignInit ⟨value, value.drawing⟩
  | .parenInit values => parenInit values.drawn
  | .braceInit values => fun _ => Drawn.bracedList values.drawn
  | .initDeclarator shape width init =>
    initDeclarator shape.drawing width.drawn (init.drawn.map (·.drawing))
  | .memberInit target init pack => memberInit target.drawing init.drawing pack
  | .declaredOnly => text ";"
  | .defined body => beforeBrace ++ body.drawing
  | .defaulted => text " = default;"
  | .deleted => text " = delete;"
  | .pureVirtual => text " = 0;"
  | .base access isVirtual target pack => Render.base access isVirtual target.drawing pack
  | .classSpecifier key attributes alignment title isFinal bases members closing =>
    classSpecifier key attributes alignment (title.drawn.map (·.drawing)) isFinal
      (bases.drawn.map (·.drawing)) members.drawn closing
  | .enumerator ident value _ =>
    ident ++ ifPresent (value.drawn.map (" = " ++ ·.operand Precedence.conditional))
  | .bodilessEnum key title underlying =>
    enumHead key (some title.drawing) (underlying.drawn.map (·.drawing))
  | .enumSpecifier key title underlying enumerators =>
    enumSpecifier key (title.drawn.map (·.drawing)) (underlying.drawn.map (·.drawing))
      enumerators.drawn
  | .typeParameter key pack ident fallback =>
    typeParameter key pack ident (fallback.drawn.map (·.drawing.doc))
  | .valueParameter inner => inner.drawing true
  | .templateParameter inner key pack ident fallback =>
    templateHeader (inner.drawn.map (·.drawing)) ++ " " ++
      typeParameter key pack ident (fallback.drawn.map (·.drawing))
  | .declaration _ form => form.drawing
  | .namespaceBlock path isInline members closing =>
    namespaceBlock path isInline members.drawn closing
  | .namespaceAlias ident target => "namespace " ++ ident ++ " = " ++ target.drawing ++ ";"
  | .forwardClass key title => key.spelling ++ " " ++ title.drawing ++ ";"
  | .classDeclaration definition => definition.drawing ++ ";"
  | .function specs pointers title sig isOverride isFinal inits body =>
    Render.function specs.drawing pointers.drawn title.drawing sig.drawing isOverride isFinal
      (inits.drawn.map (·.drawing)) ⟨body, body.drawing⟩
  | .variable specs shapes => variableList specs.drawing (shapes.drawn.map (·.drawing))
  | .typedef specs shapes => Render.typedef specs.drawing (shapes.drawn.map (·.drawing))
  | .typeAlias ident target => "using " ++ ident ++ " = " ++ target.drawing.doc ++ ";"
  | .template params isInstantiation inner =>
    template (params.drawn.map (·.drawing)) isInstantiation ⟨inner, inner.drawing⟩
  | .enumDeclaration definition => definition.drawing ++ ";"
  | .usingDirective target => "using namespace " ++ target.drawing ++ ";"
  | .usingDeclaration isTypename target =>
    "using " ++ onlyIf isTypename "typename " ++ target.drawing ++ ";"
  | .linkageBlock abi members => linkageBlock abi members.drawn
  | .linkageSingle abi inner => linkageSingle abi ⟨inner, inner.drawing⟩
  | .staticAssert holds message => staticAssert ⟨holds, holds.drawing⟩ message.drawn
  | .accessLabel access => text (access.spelling ++ ":")
  | .directive content => text content
  | .statement _ form => form.drawing
  | .block statements closing => Render.block statements.drawn closing
  | .testExpression value => testExpression ⟨value, value.drawing⟩
  | .testDeclaration inner => inner.drawing
  | .handler param body => handler (param.drawn.map (·.drawing)) body.drawing
  | .expressionStatement value => expressionStatement ⟨value, value.drawing⟩
  | .compound body => body.drawing
  | .ifStatement isConstexpr init test thenBranch elseBranch =>
    ifStatement isConstexpr (init.drawn.map (·.drawing)) test.drawing
      ⟨thenBranch, thenBranch.drawing⟩ elseBranch.drawn
  | .forStatement init test step body =>
    forStatement (init.drawn.map (·.drawing)) (test.drawn.map (·.drawing)) step.drawn
      ⟨body, body.drawing⟩
  | .rangeFor init element range body =>
    rangeFor (init.drawn.map (·.drawing)) element.drawing ⟨range, range.drawing⟩
      ⟨body, body.drawing⟩
  | .whileStatement test body => whileStatement test.drawing ⟨body, body.drawing⟩
  | .doStatement body test => doStatement ⟨body, body.drawing⟩ ⟨test, test.drawing⟩
  | .switchStatement init test body =>
    switchStatement (init.drawn.map (·.drawing)) test.drawing ⟨body, body.drawing⟩
  | .caseLabel value =>
    "case " ++ Drawn.operand ⟨value, value.drawing⟩ Precedence.conditional ++ ":"
  | .defaultLabel => text "default:"
  | .returnStatement value => returnStatement value.drawn
  | .declarationStatement inner => completed ⟨inner, inner.drawing⟩
  | .breakStatement => text "break;"
  | .continueStatement => text "continue;"
  | .goto target => text ("goto " ++ target ++ ";")
  | .namedLabel ident => text (ident ++ ":")
  | .tryStatement body handlers => tryStatement body.drawing (handlers.drawn.map (·.drawing))
  | .emptyStatement => text ";"
  | .typeOperand target => target.drawing.doc.parenthesized
  | .valueOperand value => (Drawn.anyExpression ⟨value, value.drawing⟩).parenthesized
  | .packOperand ident => text ("...(" ++ ident ++ ")")
  | .copyAll => text "="
  | .referenceAll => text "&"
  | .captureThis => text "this"
  | .captureCopyOfThis => text "*this"
  | .captureCopy ident init pack => capture ident init.drawn pack
  | .captureReference ident init pack => "&" ++ capture ident init.drawn pack
  | .literal value => text value.text
  | .nameExpression target => target.drawing
  | .this => text "this"
  | .binary op left right => Render.binary op ⟨left, left.drawing⟩ ⟨right, right.drawing⟩
  | .assignment op target value =>
    Render.assignment op ⟨target, target.drawing⟩ ⟨value, value.drawing⟩
  | .unary op inner => Render.unary op ⟨inner, inner.drawing⟩
  | .call callee values => call ⟨callee, callee.drawing⟩ values.drawn
  | .index object position => index ⟨object, object.drawing⟩ ⟨position, position.drawing⟩
  | .member object arrow target => member ⟨object, object.drawing⟩ arrow target.drawing
  | .cast kind target inner => Render.cast kind target.drawing ⟨inner, inner.drawing⟩
  | .conditional test thenValue elseValue =>
    Render.conditional ⟨test, test.drawing⟩ ⟨thenValue, thenValue.drawing⟩
      ⟨elseValue, elseValue.drawing⟩
  | .braced type values =>
    ifPresent (type.drawn.map (·.drawing)) ++ Drawn.bracedList values.drawn
  | .sizeof of => "sizeof" ++ of.drawing.enclosed
  | .alignof target => "alignof" ++ target.drawing.doc.parenthesized
  | .newExpression isGlobal placement target size init =>
    newExpression isGlobal placement.drawn ⟨target, target.drawing⟩ size.drawn
      (init.drawn.map (·.drawing))
  | .deleteExpression isGlobal isArray inner =>
    deleteExpression isGlobal isArray ⟨inner, inner.drawing⟩
  | .throwExpression inner => throwExpression inner.drawn
  | .lambda captures parameters isMutable isConstexpr exception result body =>
    lambda (captures.drawn.map (·.drawing)) (parameters.drawn.map (·.drawing)) isMutable
      isConstexpr (exception.drawn.map (·.drawing)) (result.drawn.map (·.drawing))
      ⟨body, body.drawing⟩
  | .packExpansion pattern =>
    Drawn.operand ⟨pattern, pattern.drawing⟩ Precedence.assignment ++ "..."
  | .fold op left right => Render.fold op left.drawn right.drawn
  | .noexceptExpression inner => noexceptExpression ⟨inner, inner.drawing⟩
  | .typeid of => "typeid" ++ of.drawing.enclosed
  | .unit declarations closing => declarationLines declarations.drawn ++ commentLines closing

/-- Nodes in a row with what is drawn of each. -/
def Trees.drawn {c : Category} : Trees c → List (Drawn c)
  | .nil => []
  | .cons head tail => ⟨head, head.drawing⟩ :: tail.drawn

/-- A node that may be left out with what is drawn of it. -/
def Part.drawn {c : Category} : Part c → Option (Drawn c)
  | .absent => none
  | .present inner => some ⟨inner, inner.drawing⟩

end

/-- The text of a unit. -/
def render (options : RenderOptions) (unit : TranslationUnit) : String :=
  unit.drawing ⟨options, unit.typeNames, 0, false⟩

end CppSyntax
