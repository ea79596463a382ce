import CppSyntax.Grammar.Template
import CppSyntax.Grammar.Operand

/-!
Declarations of every scope: namespaces, templates, linkage, aliases, assertions, and the simple
declarations, in which specifiers are followed by a function or by declarators with initializers.
-/

namespace CppSyntax

namespace Tree

/-- The declaration is the last part of the form, and a comment behind it is its own. -/
def endsInDeclaration : Tree .declarationForm → Bool
  | .template .. | .linkageSingle .. => true
  | _ => false

/-- A declarator that declares a function: a name with parameters. -/
def asFunction? : Declarator → Option (Trees .pointerOperator × Name × Tree .signature)
  | .declarator pointers false (.declaredName title) (.cons (.functionSuffix sig) .nil) =>
    some (pointers, title, sig)
  | _ => none

/-- Whether a declarator makes sense behind a type that might as well be a variable. -/
def isPlausible : Declarator → Bool
  | .declarator _ _ (.declaredName _) _ => true
  | .declarator _ _ (.nestedDeclarator (.declarator (.cons ..) _ _ _)) (.cons ..) => true
  | _ => false

/-- What specifiers declare on their own. A class or an enumeration with nothing around it is a
declaration of its own kind. -/
def standingAlone (specs : ParsedSpecifiers) : Tree .declarationForm :=
  let bare := specs.attributes.isEmpty && specs.alignment.isEmpty && specs.modifiers.isEmpty &&
    !specs.isTypedef
  match bare, specs.type with
  | true, some (.classType ⟨false, false⟩ definition) => .classDeclaration definition
  | true, some (.enumType ⟨false, false⟩ definition) => .enumDeclaration definition
  | true, some (.elaboratedType ⟨false, false⟩ (.ofClass key) title) => .forwardClass key title
  | _, _ => .variable specs.tree .nil

end Tree

namespace Grammar

open CppSyntax.Parser

variable {m : Type → Type} [Monad m] [Reading m]

/-- The path of a namespace, empty for an unnamed one. -/
def namespacePath (g : Grammar m) : m (List String) := do
  unless (← here).isAtIdentifier do return []
  let first ← expectIdentifier "in namespace name"
  g.loop (fun path => do
    unless ← accept .scope do return .inr path
    return .inl (path ++ [← expectIdentifier "in nested namespace name"])) [first]

def namespaceForm (g : Grammar m) (isInline : Bool) : m (Tree .declarationForm) := do
  expectWord .kwNamespace "before its name"
  let path ← g.namespacePath
  if let [ident] := path then
    if ← accept .assign then
      let target ← g.name
      expect .semicolon "after namespace alias"
      return .namespaceAlias ident target
  let (members, closing) ← braced "namespace body" <|
    g.itemsUntil .rightBrace (g.declaration .inNamespace)
  return .namespaceBlock path isInline (.ofList members) closing

/-- An alias makes its name known as a type before its end is checked. -/
def aliasForm (g : Grammar m) : m (Tree .declarationForm) := do
  let ident ← expectIdentifier "in alias declaration"
  advance
  let target ← g.typeId
  declareType ident
  expect .semicolon "after alias declaration"
  return .typeAlias ident target

def usingForm (g : Grammar m) : m (Tree .declarationForm) := do
  expectWord .kwUsing "before a name"
  if ← acceptWord .kwNamespace then
    let target ← g.name
    expect .semicolon "after using directive"
    return .usingDirective target
  let state ← here
  if state.isAtIdentifier && state.isAhead 1 .assign then return ← g.aliasForm
  let isTypename ← acceptWord .kwTypename
  let target ← g.name
  expect .semicolon "after using declaration"
  return .usingDeclaration isTypename target

/-- A declaration where a stray semicolon is an error. -/
def requiredDeclaration (g : Grammar m) (scope : Scope) (purpose : String) : m Declaration := do
  let start := (← here).current.location
  match ← g.declaration scope with
  | some inner => return inner
  | none => failWith ⟨start, .phrase purpose, .token (.punctuator .semicolon)⟩

def templateForm (g : Grammar m) (scope : Scope) : m (Tree .declarationForm) := do
  expectWord .kwTemplate "before its parameters"
  let isInstantiation := !(← here).isAt .less
  let params ← if isInstantiation then pure [] else g.templateParameters
  let inner ← g.requiredDeclaration scope "declaration after template header"
  return .template (.ofList params) isInstantiation inner

def linkageForm (g : Grammar m) (abi : String) : m (Tree .declarationForm) := do
  advanceBy 2
  unless ← accept .leftBrace do
    return .linkageSingle abi
      (← g.requiredDeclaration .inNamespace "declaration after linkage specification")
  let members ← g.itemsUntil .rightBrace (g.declaration .inNamespace)
  expect .rightBrace "to close linkage block"
  return .linkageBlock abi (.ofList members)

/-- The condition of an assertion and its message. -/
def assertedClauses (g : Grammar m) : m (Expr × Option Expr) := do
  let holds ← g.assignment
  let message ← if ← accept .comma then some <$> g.assignment else pure none
  return (holds, message)

def staticAssertForm (g : Grammar m) : m (Tree .declarationForm) := do
  expectWord .kwStaticAssert "before its condition"
  expect .leftParen "after 'static_assert'"
  let (holds, message) ← angleCloses false g.assertedClauses
  expect .rightParen "to close 'static_assert'"
  expect .semicolon "after 'static_assert'"
  return .staticAssert holds (.ofOption message)

/-- The words `override` and `final`, which are reserved only here. -/
def virtualWords (g : Grammar m) : m (Bool × Bool) :=
  g.loop (fun (isOverride, isFinal) => do
    if ← acceptIdent "override" then return .inl (true, isFinal)
    if ← acceptIdent "final" then return .inl (isOverride, true)
    return .inr (isOverride, isFinal)) (false, false)

def memberInit (g : Grammar m) : m (Tree .memberInit) := do
  let target ← g.name
  let init ←
    if (← here).isAt .leftBrace then Tree.braceInit <$> Trees.ofList <$> g.bracedList
    else do
      expect .leftParen "in member initializer"
      Tree.parenInit <$> Trees.ofList <$> g.expressionList .rightParen
  return .memberInit target init (← accept .ellipsis)

/-- What stands after `=` instead of a function body. -/
def assignedBody : m (Tree .functionBody) := do
  if ← acceptWord .kwDefault then return .defaulted
  if ← acceptWord .kwDelete then return .deleted
  if (← here).kind == .integer "0" then
    advance
    return .pureVirtual
  fail (.phrase "'default', 'delete' or '0' after '='")

def functionBody (g : Grammar m) : m (List (Tree .memberInit) × Tree .functionBody) := do
  if ← accept .assign then
    let body ← assignedBody
    expect .semicolon "after function declaration"
    return ([], body)
  if ← accept .colon then
    let inits ← g.separated g.memberInit
    return (inits, .defined (← g.block))
  if (← here).isAt .leftBrace then return ([], .defined (← g.block))
  expect .semicolon "after function declaration"
  return ([], .declaredOnly)

/-- What follows the parameters of a function and their qualifiers. -/
def functionForm (g : Grammar m) (specs : ParsedSpecifiers) (pointers : Trees .pointerOperator)
    (title : Name) (sig : Tree .signature) : m (Tree .declarationForm) := do
  let (isOverride, isFinal) ← g.virtualWords
  let (inits, body) ← g.functionBody
  return .function specs.tree pointers title sig isOverride isFinal (.ofList inits) body

def initializer (g : Grammar m) : m (Option (Tree .initializer)) := do
  if ← accept .assign then return some (.assignInit (← g.clause))
  if (← here).isAt .leftBrace then return some (.braceInit (.ofList (← g.bracedList)))
  if ← accept .leftParen then
    return some (.parenInit (.ofList (← g.expressionList .rightParen)))
  return none

/-- A declarator with a name, or nothing before the colon of an unnamed bit-field. -/
def memberDeclarator (g : Grammar m) (scope : Scope) : m Declarator := do
  if scope == .inClass && (← here).isAt .colon then return Tree.plainDeclarator
  g.declarator .named

def bitWidth (g : Grammar m) (scope : Scope) : m (Option Expr) := do
  if scope != .inClass then return none
  if ← accept .colon then some <$> g.conditional else return none

/-- The declarators of a declaration from the first one on, which has been read. -/
def initDeclarators (g : Grammar m) (scope : Scope) (first : Declarator) :
    m (List (Tree .initDeclarator)) :=
  g.loop (fun (found, shape) => do
    let width ← g.bitWidth scope
    let init ← g.initializer
    let found := found ++ [.initDeclarator shape (.ofOption width) (.ofOption init)]
    unless ← accept .comma do return .inr found
    return .inl (found, ← g.memberDeclarator scope))
    (([], first) : List (Tree .initDeclarator) × Declarator)

/-- The names of a typedef are known as types after its end. -/
def typedefForm (g : Grammar m) (specs : ParsedSpecifiers) (first : Declarator) :
    m (Tree .declarationForm) := do
  let shapes ← g.loop (fun shapes => do
    unless ← accept .comma do return .inr shapes
    return .inl (shapes ++ [← g.declarator .named])) [first]
  expect .semicolon "after typedef"
  let shapes := Trees.ofList shapes
  declareTypes shapes.declaredIdents
  return .typedef specs.tree shapes

def variableForm (g : Grammar m) (scope : Scope) (specs : ParsedSpecifiers) (first : Declarator) :
    m (Tree .declarationForm) := do
  if specs.type.isNone then fail (.phrase "'(' after function name")
  let shapes ← g.initDeclarators scope first
  expect .semicolon "after declaration"
  return .variable specs.tree (.ofList shapes)

def simpleForm (g : Grammar m) (scope : Scope) : m (Tree .declarationForm) := do
  let specs ← g.specifiers scope
  if ← accept .semicolon then return Tree.standingAlone specs
  let first ← g.memberDeclarator scope
  if specs.isTypedef then return ← g.typedefForm specs first
  match first.asFunction? with
  | some (pointers, title, sig) =>
    if (← here).isAt .comma then g.variableForm scope specs first
    else g.functionForm specs pointers title sig
  | none => g.variableForm scope specs first

/-- A form that starts with a keyword. -/
def keywordForm (g : Grammar m) (scope : Scope) (word : Keyword) : m (Tree .declarationForm) := do
  match word, (← here).ahead 1 with
  | .kwNamespace, _ => g.namespaceForm false
  | .kwInline, .keyword .kwNamespace => advance; g.namespaceForm true
  | .kwUsing, _ => g.usingForm
  | .kwTemplate, _ => g.templateForm scope
  | .kwExtern, .string abi => g.linkageForm abi
  | .kwStaticAssert, _ => g.staticAssertForm
  | _, _ =>
    match scope, word.access? with
    | .inClass, some access =>
      advance
      expect .colon "after access specifier"
      return .accessLabel access
    | _, _ => g.simpleForm scope

def declarationForm (g : Grammar m) (scope : Scope) : m (Tree .declarationForm) := do
  match (← here).kind with
  | .directive text => advance; return .directive text
  | .keyword word => g.keywordForm scope word
  | _ => g.simpleForm scope

def declarationRule (g : Grammar m) (scope : Scope) : m (Option Declaration) :=
  nested do
    let place ← startPlacement
    if ← accept .semicolon then return none
    let form ← g.declarationForm scope
    let trailing ← if form.endsInDeclaration then pure none else trailingComment
    return some (.declaration { place with trailingComment := trailing } form)

def loneSpecifiers (g : Grammar m) : m ParsedSpecifiers := do
  let specs ← g.specifiers .inBlock
  if specs.type.isNone || specs.isTypedef then fail (.phrase "type name")
  return specs

/-- The declaration of the variable of a condition, which must be initialized and cannot be read as
an expression. -/
def conditionDeclaration (g : Grammar m) : m Declaration := do
  let place ← startPlacement
  let specs ← g.loneSpecifiers
  let shape ← g.declarator .named
  match ← g.initializer with
  | some (.parenInit _) | none => fail (.phrase "'=' or '\x7b' in condition")
  | some init =>
    unless specs.certain || shape.isPlausible do fail (.phrase "condition declaration")
    return .declaration place (.variable specs.tree
      (.cons (.initDeclarator shape .absent (.present init)) .nil))

/-- The declaration of the variable that runs through a range. -/
def rangeDeclaration (g : Grammar m) : m Declaration := do
  let place ← startPlacement
  let specs ← g.loneSpecifiers
  let shape ← g.declarator .named
  return .declaration place (.variable specs.tree
    (.cons (.initDeclarator shape .absent .absent) .nil))

end Grammar

end CppSyntax
