import CppSyntax.Tree.Name

/-!
The names that a tree introduces as types: those of its classes, enumerations, typedefs, aliases and
template type parameters, wherever they stand. Two places are not looked at: the pointer operators
before the name of a function, and the exception specification of a lambda.
-/

namespace CppSyntax

/-- Names that count as types before any declaration. -/
def libraryTypeNames : List String :=
  ["size_t", "ssize_t", "ptrdiff_t", "intptr_t", "uintptr_t", "intmax_t", "uintmax_t",
    "int8_t", "int16_t", "int32_t", "int64_t", "uint8_t", "uint16_t", "uint32_t", "uint64_t",
    "nullptr_t", "max_align_t", "FILE"]

/-- The identifier of a class or enumeration, which may have none. -/
def Part.lastIdents (name : Part .name) : List String :=
  (name.toOption.bind (·.lastIdent?)).toList

/-- The identifiers that the declarators of a typedef introduce. -/
def Trees.declaredIdents (shapes : Trees .declarator) : List String :=
  shapes.toList.filterMap fun shape => shape.declaredName?.bind (·.lastIdent?)

/-- An elaborated type introduces its name, except after `typename`. -/
def ElaboratedKey.introduces : ElaboratedKey → Bool
  | .ofTypename => false
  | .ofClass _ | .ofEnum => true

mutual

/-- The names introduced as types in a tree, with repetitions. -/
def Tree.typeNames {c : Category} : Tree c → List String
  | .templateSegment _ arguments _ => arguments.typeNames
  | .conversionSegment target _ => target.typeNames
  | .qualifiedName _ segments => segments.typeNames
  | .typeArgument target => target.typeNames
  | .valueArgument value => value.typeNames
  | .packArgument pattern => pattern.typeNames
  | .namedType _ target => target.typeNames
  | .elaboratedType _ key target =>
    (if key.introduces then target.lastIdent?.toList else []) ++ target.typeNames
  | .decltypeType _ value => value.typeNames
  | .classType _ definition => definition.typeNames
  | .enumType _ definition => definition.typeNames
  | .memberPointer scope _ => scope.typeNames
  | .declaredName target => target.typeNames
  | .nestedDeclarator inner => inner.typeNames
  | .noexceptSpec holds => holds.typeNames
  | .throwSpec types => types.typeNames
  | .parameterList items _ => items.typeNames
  | .signature parameters _ _ exception result =>
    parameters.typeNames ++ exception.typeNames ++ result.typeNames
  | .arraySuffix size => size.typeNames
  | .functionSuffix sig => sig.typeNames
  | .declarator pointers _ core suffixes =>
    pointers.typeNames ++ core.typeNames ++ suffixes.typeNames
  | .typeId spec shape => spec.typeNames ++ shape.typeNames
  | .specifiers _ _ _ type => type.typeNames
  | .parameter specs shape fallback => specs.typeNames ++ shape.typeNames ++ fallback.typeNames
  | .assignInit value => value.typeNames
  | .parenInit values => values.typeNames
  | .braceInit values => values.typeNames
  | .initDeclarator shape bitWidth init => shape.typeNames ++ bitWidth.typeNames ++ init.typeNames
  | .memberInit target init _ => target.typeNames ++ init.typeNames
  | .defined body => body.typeNames
  | .base _ _ target _ => target.typeNames
  | .classSpecifier _ _ _ title _ bases members _ =>
    title.lastIdents ++ title.typeNames ++ bases.typeNames ++ members.typeNames
  | .enumerator _ value _ => value.typeNames
  | .bodilessEnum _ title underlying =>
    title.lastIdent?.toList ++ title.typeNames ++ underlying.typeNames
  | .enumSpecifier _ title underlying enumerators =>
    title.lastIdents ++ title.typeNames ++ underlying.typeNames ++ enumerators.typeNames
  | .typeParameter _ _ ident fallback => ident.toList ++ fallback.typeNames
  | .valueParameter inner => inner.typeNames
  | .templateParameter inner _ _ ident fallback =>
    ident.toList ++ inner.typeNames ++ fallback.typeNames
  | .declaration _ form => form.typeNames
  | .namespaceBlock _ _ members _ => members.typeNames
  | .namespaceAlias _ target => target.typeNames
  | .forwardClass _ title => title.lastIdent?.toList ++ title.typeNames
  | .classDeclaration definition => definition.typeNames
  | .function specs _ title sig _ _ inits body =>
    specs.typeNames ++ title.typeNames ++ sig.typeNames ++ inits.typeNames ++ body.typeNames
  | .variable specs shapes => specs.typeNames ++ shapes.typeNames
  | .typedef specs shapes => shapes.declaredIdents ++ specs.typeNames ++ shapes.typeNames
  | .typeAlias ident target => [ident] ++ target.typeNames
  | .template params _ inner => params.typeNames ++ inner.typeNames
  | .enumDeclaration definition => definition.typeNames
  | .usingDirective target => target.typeNames
  | .usingDeclaration _ target => target.typeNames
  | .linkageBlock _ members => members.typeNames
  | .linkageSingle _ inner => inner.typeNames
  | .staticAssert holds message => holds.typeNames ++ message.typeNames
  | .statement _ form => form.typeNames
  | .block statements _ => statements.typeNames
  | .testExpression value => value.typeNames
  | .testDeclaration inner => inner.typeNames
  | .handler param body => param.typeNames ++ body.typeNames
  | .expressionStatement value => value.typeNames
  | .compound body => body.typeNames
  | .ifStatement _ init test thenBranch elseBranch =>
    init.typeNames ++ test.typeNames ++ thenBranch.typeNames ++ elseBranch.typeNames
  | .forStatement init test step body =>
    init.typeNames ++ test.typeNames ++ step.typeNames ++ body.typeNames
  | .rangeFor init element range body =>
    init.typeNames ++ element.typeNames ++ range.typeNames ++ body.typeNames
  | .whileStatement test body => test.typeNames ++ body.typeNames
  | .doStatement body test => body.typeNames ++ test.typeNames
  | .switchStatement init test body => init.typeNames ++ test.typeNames ++ body.typeNames
  | .caseLabel value => value.typeNames
  | .returnStatement value => value.typeNames
  | .declarationStatement inner => inner.typeNames
  | .tryStatement body handlers => body.typeNames ++ handlers.typeNames
  | .typeOperand target => target.typeNames
  | .valueOperand value => value.typeNames
  | .captureCopy _ init _ => init.typeNames
  | .captureReference _ init _ => init.typeNames
  | .nameExpression target => target.typeNames
  | .binary _ left right => left.typeNames ++ right.typeNames
  | .assignment _ target value => target.typeNames ++ value.typeNames
  | .unary _ inner => inner.typeNames
  | .call callee values => callee.typeNames ++ values.typeNames
  | .index object position => object.typeNames ++ position.typeNames
  | .member object _ target => object.typeNames ++ target.typeNames
  | .cast _ target inner => target.typeNames ++ inner.typeNames
  | .conditional test thenValue elseValue =>
    test.typeNames ++ thenValue.typeNames ++ elseValue.typeNames
  | .braced type values => type.typeNames ++ values.typeNames
  | .sizeof of => of.typeNames
  | .alignof target => target.typeNames
  | .newExpression _ placement target size init =>
    placement.typeNames ++ target.typeNames ++ size.typeNames ++ init.typeNames
  | .deleteExpression _ _ inner => inner.typeNames
  | .throwExpression inner => inner.typeNames
  | .lambda captures parameters _ _ _ result body =>
    captures.typeNames ++ parameters.typeNames ++ result.typeNames ++ body.typeNames
  | .packExpansion pattern => pattern.typeNames
  | .fold _ left right => left.typeNames ++ right.typeNames
  | .noexceptExpression inner => inner.typeNames
  | .typeid of => of.typeNames
  | .unit declarations _ => declarations.typeNames
  | .plainSegment .. | .destructorSegment .. | .operatorSegment .. | .builtinType ..
  | .decltypeAuto .. | .autoType .. | .pointer .. | .lvalueReference | .rvalueReference
  | .unnamed | .bindings .. | .declaredOnly | .defaulted | .deleted | .pureVirtual
  | .accessLabel .. | .directive .. | .defaultLabel | .breakStatement
  | .continueStatement | .goto .. | .namedLabel .. | .emptyStatement | .packOperand ..
  | .copyAll | .referenceAll | .captureThis | .captureCopyOfThis | .literal .. | .this => []

def Trees.typeNames {c : Category} : Trees c → List String
  | .nil => []
  | .cons head tail => head.typeNames ++ tail.typeNames

def Part.typeNames {c : Category} : Part c → List String
  | .absent => []
  | .present inner => inner.typeNames

end

/-- The names that count as types in a unit, those known beforehand included. -/
def Tree.knownTypes (unit : TranslationUnit) : List String :=
  libraryTypeNames ++ unit.typeNames

/-- The type names of a tree beside those of the library, sorted and each once. -/
def Tree.introducedTypeNames (unit : TranslationUnit) : List String :=
  (unit.typeNames.filter (!libraryTypeNames.contains ·)).eraseDups.mergeSort (decide <| · ≤ ·)

end CppSyntax
