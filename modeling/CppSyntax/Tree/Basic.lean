import CppSyntax.Operator
import CppSyntax.Tree.Marker

/-!
Syntax trees of C++. One family holds every kind of node; its index is the grammatical category of
the node, so that a tree is well sorted by construction. Sequences of nodes and optional nodes form
two more families beside it, and a function on all trees is one recursion over the three.
-/

namespace CppSyntax

/-- The grammatical categories of nodes. -/
inductive Category where
  | segment | name | templateArgument
  | typeSpecifier | pointerOperator | declaratorCore | exceptionSpec | signature
  | parameterList | declaratorSuffix | declarator | typeId
  | specifiers | parameter | initializer | initDeclarator | memberInit | functionBody
  | base | classSpecifier | enumerator | enumSpecifier | templateParameter
  | declarationForm | declaration
  | block | condition | handler | statementForm | statement
  | operand | capture | expression
  | unit
deriving DecidableEq, Repr

mutual

/-- A node of the given category with everything below it. Comments stand with the declaration,
statement or enumerator they belong to; those before a closing brace stand with what it closes. -/
inductive Tree : Category → Type where
  /- names: each segment may be marked by the keyword `template` -/
  | plainSegment (ident : String) (marked : Bool) : Tree .segment
  | templateSegment (ident : String) (arguments : Trees .templateArgument) (marked : Bool) :
      Tree .segment
  | destructorSegment (ident : String) (marked : Bool) : Tree .segment
  | operatorSegment (symbol : String) (marked : Bool) : Tree .segment
  | conversionSegment (target : Tree .typeId) (marked : Bool) : Tree .segment
  | qualifiedName (isGlobal : Bool) (segments : Trees .segment) : Tree .name
  | typeArgument (target : Tree .typeId) : Tree .templateArgument
  | valueArgument (value : Tree .expression) : Tree .templateArgument
  | packArgument (pattern : Tree .templateArgument) : Tree .templateArgument
  /- types -/
  | builtinType (cv : Qualifiers) (words : List String) : Tree .typeSpecifier
  | namedType (cv : Qualifiers) (target : Tree .name) : Tree .typeSpecifier
  | elaboratedType (cv : Qualifiers) (key : ElaboratedKey) (target : Tree .name) :
      Tree .typeSpecifier
  | decltypeType (cv : Qualifiers) (value : Tree .expression) : Tree .typeSpecifier
  | decltypeAuto (cv : Qualifiers) : Tree .typeSpecifier
  | autoType (cv : Qualifiers) : Tree .typeSpecifier
  | classType (cv : Qualifiers) (definition : Tree .classSpecifier) : Tree .typeSpecifier
  | enumType (cv : Qualifiers) (definition : Tree .enumSpecifier) : Tree .typeSpecifier
  | pointer (cv : Qualifiers) : Tree .pointerOperator
  | lvalueReference : Tree .pointerOperator
  | rvalueReference : Tree .pointerOperator
  | memberPointer (scope : Tree .name) (cv : Qualifiers) : Tree .pointerOperator
  | unnamed : Tree .declaratorCore
  | declaredName (target : Tree .name) : Tree .declaratorCore
  | nestedDeclarator (inner : Tree .declarator) : Tree .declaratorCore
  | bindings (names : List String) : Tree .declaratorCore
  | noexceptSpec (holds : Part .expression) : Tree .exceptionSpec
  | throwSpec (types : Trees .typeId) : Tree .exceptionSpec
  | parameterList (items : Trees .parameter) (variadic : Bool) : Tree .parameterList
  | signature (parameters : Tree .parameterList) (cv : Qualifiers)
      (reference : Option ReferenceQualifier) (exception : Part .exceptionSpec)
      (result : Part .typeId) : Tree .signature
  | arraySuffix (size : Part .expression) : Tree .declaratorSuffix
  | functionSuffix (sig : Tree .signature) : Tree .declaratorSuffix
  | declarator (pointers : Trees .pointerOperator) (pack : Bool) (core : Tree .declaratorCore)
      (suffixes : Trees .declaratorSuffix) : Tree .declarator
  | typeId (spec : Tree .typeSpecifier) (shape : Tree .declarator) : Tree .typeId
  /- parts of declarations -/
  | specifiers (attributes alignment : List String) (modifiers : List Modifier)
      (type : Part .typeSpecifier) : Tree .specifiers
  | parameter (specs : Tree .specifiers) (shape : Tree .declarator) (fallback : Part .expression) :
      Tree .parameter
  | assignInit (value : Tree .expression) : Tree .initializer
  | parenInit (values : Trees .expression) : Tree .initializer
  | braceInit (values : Trees .expression) : Tree .initializer
  | initDeclarator (shape : Tree .declarator) (bitWidth : Part .expression)
      (init : Part .initializer) : Tree .initDeclarator
  | memberInit (target : Tree .name) (init : Tree .initializer) (pack : Bool) : Tree .memberInit
  | declaredOnly : Tree .functionBody
  | defined (body : Tree .block) : Tree .functionBody
  | defaulted : Tree .functionBody
  | deleted : Tree .functionBody
  | pureVirtual : Tree .functionBody
  | base (access : Option Access) (isVirtual : Bool) (target : Tree .name) (pack : Bool) :
      Tree .base
  | classSpecifier (key : ClassKey) (attributes alignment : List String) (title : Part .name)
      (isFinal : Bool) (bases : Trees .base) (members : Trees .declaration)
      (closing : List String) : Tree .classSpecifier
  | enumerator (ident : String) (value : Part .expression) (place : Placement) : Tree .enumerator
  | bodilessEnum (key : Option ClassKey) (title : Tree .name) (underlying : Part .typeSpecifier) :
      Tree .enumSpecifier
  | enumSpecifier (key : Option ClassKey) (title : Part .name) (underlying : Part .typeSpecifier)
      (enumerators : Trees .enumerator) : Tree .enumSpecifier
  | typeParameter (key : TypeParameterKey) (pack : Bool) (ident : Option String)
      (fallback : Part .typeId) : Tree .templateParameter
  | valueParameter (inner : Tree .parameter) : Tree .templateParameter
  | templateParameter (inner : Trees .templateParameter) (key : TypeParameterKey) (pack : Bool)
      (ident : Option String) (fallback : Part .name) : Tree .templateParameter
  /- declarations -/
  | declaration (place : Placement) (form : Tree .declarationForm) : Tree .declaration
  | namespaceBlock (path : List String) (isInline : Bool) (members : Trees .declaration)
      (closing : List String) : Tree .declarationForm
  | namespaceAlias (ident : String) (target : Tree .name) : Tree .declarationForm
  | forwardClass (key : ClassKey) (title : Tree .name) : Tree .declarationForm
  | classDeclaration (definition : Tree .classSpecifier) : Tree .declarationForm
  | function (specs : Tree .specifiers) (pointers : Trees .pointerOperator) (title : Tree .name)
      (sig : Tree .signature) (isOverride isFinal : Bool) (inits : Trees .memberInit)
      (body : Tree .functionBody) : Tree .declarationForm
  | variable (specs : Tree .specifiers) (shapes : Trees .initDeclarator) : Tree .declarationForm
  | typedef (specs : Tree .specifiers) (shapes : Trees .declarator) : Tree .declarationForm
  | typeAlias (ident : String) (target : Tree .typeId) : Tree .declarationForm
  | template (params : Trees .templateParameter) (isInstantiation : Bool)
      (inner : Tree .declaration) : Tree .declarationForm
  | enumDeclaration (definition : Tree .enumSpecifier) : Tree .declarationForm
  | usingDirective (target : Tree .name) : Tree .declarationForm
  | usingDeclaration (isTypename : Bool) (target : Tree .name) : Tree .declarationForm
  | linkageBlock (abi : String) (members : Trees .declaration) : Tree .declarationForm
  | linkageSingle (abi : String) (inner : Tree .declaration) : Tree .declarationForm
  | staticAssert (holds : Tree .expression) (message : Part .expression) : Tree .declarationForm
  | accessLabel (access : Access) : Tree .declarationForm
  | directive (text : String) : Tree .declarationForm
  /- statements -/
  | statement (place : Placement) (form : Tree .statementForm) : Tree .statement
  | block (statements : Trees .statement) (closing : List String) : Tree .block
  | testExpression (value : Tree .expression) : Tree .condition
  | testDeclaration (inner : Tree .declaration) : Tree .condition
  | handler (param : Part .parameter) (body : Tree .block) : Tree .handler
  | expressionStatement (value : Tree .expression) : Tree .statementForm
  | compound (body : Tree .block) : Tree .statementForm
  | ifStatement (isConstexpr : Bool) (init : Part .statement) (test : Tree .condition)
      (thenBranch : Tree .statement) (elseBranch : Part .statement) : Tree .statementForm
  | forStatement (init : Part .statement) (test : Part .condition) (step : Part .expression)
      (body : Tree .statement) : Tree .statementForm
  | rangeFor (init : Part .statement) (element : Tree .declaration) (range : Tree .expression)
      (body : Tree .statement) : Tree .statementForm
  | whileStatement (test : Tree .condition) (body : Tree .statement) : Tree .statementForm
  | doStatement (body : Tree .statement) (test : Tree .expression) : Tree .statementForm
  | switchStatement (init : Part .statement) (test : Tree .condition) (body : Tree .statement) :
      Tree .statementForm
  | caseLabel (value : Tree .expression) : Tree .statementForm
  | defaultLabel : Tree .statementForm
  | returnStatement (value : Part .expression) : Tree .statementForm
  | declarationStatement (inner : Tree .declaration) : Tree .statementForm
  | breakStatement : Tree .statementForm
  | continueStatement : Tree .statementForm
  | goto (target : String) : Tree .statementForm
  | namedLabel (ident : String) : Tree .statementForm
  | tryStatement (body : Tree .block) (handlers : Trees .handler) : Tree .statementForm
  | emptyStatement : Tree .statementForm
  /- expressions -/
  | typeOperand (target : Tree .typeId) : Tree .operand
  | valueOperand (value : Tree .expression) : Tree .operand
  | packOperand (ident : String) : Tree .operand
  | copyAll : Tree .capture
  | referenceAll : Tree .capture
  | captureThis : Tree .capture
  | captureCopyOfThis : Tree .capture
  | captureCopy (ident : String) (init : Part .expression) (pack : Bool) : Tree .capture
  | captureReference (ident : String) (init : Part .expression) (pack : Bool) : Tree .capture
  | literal (value : Literal) : Tree .expression
  | nameExpression (target : Tree .name) : Tree .expression
  | this : Tree .expression
  | binary (op : BinaryOp) (left right : Tree .expression) : Tree .expression
  | assignment (op : AssignOp) (target value : Tree .expression) : Tree .expression
  | unary (op : UnaryOp) (inner : Tree .expression) : Tree .expression
  | call (callee : Tree .expression) (values : Trees .expression) : Tree .expression
  | index (object position : Tree .expression) : Tree .expression
  | member (object : Tree .expression) (arrow : Bool) (target : Tree .name) : Tree .expression
  | cast (kind : CastKind) (target : Tree .typeId) (inner : Tree .expression) : Tree .expression
  | conditional (test thenValue elseValue : Tree .expression) : Tree .expression
  | braced (type : Part .typeSpecifier) (values : Trees .expression) : Tree .expression
  | sizeof (of : Tree .operand) : Tree .expression
  | alignof (target : Tree .typeId) : Tree .expression
  | newExpression (isGlobal : Bool) (placement : Trees .expression) (target : Tree .typeId)
      (size : Part .expression) (init : Part .initializer) : Tree .expression
  | deleteExpression (isGlobal isArray : Bool) (inner : Tree .expression) : Tree .expression
  | throwExpression (inner : Part .expression) : Tree .expression
  | lambda (captures : Trees .capture) (parameters : Part .parameterList)
      (isMutable isConstexpr : Bool) (exception : Part .exceptionSpec) (result : Part .typeId)
      (body : Tree .block) : Tree .expression
  | packExpansion (pattern : Tree .expression) : Tree .expression
  | fold (op : BinaryOp) (left right : Part .expression) : Tree .expression
  | noexceptExpression (inner : Tree .expression) : Tree .expression
  | typeid (of : Tree .operand) : Tree .expression
  /- the root -/
  | unit (declarations : Trees .declaration) (closing : List String) : Tree .unit
deriving DecidableEq

/-- Nodes of one category in source order. -/
inductive Trees : Category → Type where
  | nil {c : Category} : Trees c
  | cons {c : Category} (head : Tree c) (tail : Trees c) : Trees c
deriving DecidableEq

/-- A node that may be left out. -/
inductive Part : Category → Type where
  | absent {c : Category} : Part c
  | present {c : Category} (inner : Tree c) : Part c
deriving DecidableEq

end

abbrev Expr := Tree .expression
abbrev Statement := Tree .statement
abbrev Declaration := Tree .declaration
abbrev Name := Tree .name
abbrev Declarator := Tree .declarator
abbrev TypeId := Tree .typeId
abbrev TypeSpecifier := Tree .typeSpecifier
abbrev TranslationUnit := Tree .unit

/-- The tree with another placement, if it is a declaration or a statement. -/
def Tree.mapPlace (change : Placement → Placement) : Tree c → Tree c
  | .declaration place form => .declaration (change place) form
  | .statement place form => .statement (change place) form
  | tree => tree

namespace Trees

def toList : Trees c → List (Tree c)
  | .nil => []
  | .cons head tail => head :: tail.toList

def ofList : List (Tree c) → Trees c
  | [] => .nil
  | head :: tail => .cons head (ofList tail)

@[simp] theorem toList_ofList (items : List (Tree c)) : (ofList items).toList = items := by
  induction items with
  | nil => rfl
  | cons head tail ih => simp [ofList, toList, ih]

@[simp] theorem ofList_toList : (items : Trees c) → ofList items.toList = items
  | .nil => rfl
  | .cons head tail => by rw [toList, ofList, ofList_toList tail]

end Trees

namespace Part

def toOption : Part c → Option (Tree c)
  | .absent => none
  | .present inner => some inner

def ofOption : Option (Tree c) → Part c
  | none => .absent
  | some inner => .present inner

def isPresent (part : Part c) : Bool := part.toOption.isSome

@[simp] theorem toOption_ofOption (part : Option (Tree c)) : (ofOption part).toOption = part := by
  cases part <;> rfl

@[simp] theorem ofOption_toOption (part : Part c) : ofOption part.toOption = part := by
  cases part <;> rfl

end Part

end CppSyntax
