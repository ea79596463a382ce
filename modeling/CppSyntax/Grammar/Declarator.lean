import CppSyntax.Grammar.Specifier

/-!
Declarators: pointer operators, the declared name with its nesting, and array and function suffixes
with the parameters and qualifiers of functions.
-/

namespace CppSyntax

namespace State

/-- Whether the parenthesis here opens a nested declarator, such as that of a function pointer. -/
def atNestedDeclarator (state : State) : Bool :=
  state.isAt .leftParen &&
    match state.ahead 1 with
    | .punctuator mark => [.star, .ampersand, .andAnd].contains mark
    | .identifier _ => state.isAhead 2 .scope && state.isAhead 3 .star
    | _ => false

def atExceptionSpec (state : State) : Bool :=
  state.isAtWord .kwNoexcept || state.isAtWord .kwThrow

/-- Whether the name of a declarator starts here. -/
def atDeclaredName (state : State) : Bool :=
  state.isAtIdentifier || state.isAt .scope || state.isAt .tilde || state.isAtWord .kwOperator

end State

namespace Grammar

open CppSyntax.Parser

variable {m : Type → Type} [Monad m] [Reading m]

def exceptionSpec (g : Grammar m) : m (Tree .exceptionSpec) := do
  if ← acceptWord .kwNoexcept then
    unless ← accept .leftParen do return .noexceptSpec .absent
    let holds ← g.bracketed
    expect .rightParen "to close 'noexcept'"
    return .noexceptSpec (.present holds)
  expectWord .kwThrow "in exception specification"
  expect .leftParen "after 'throw'"
  let types ← if (← here).isAt .rightParen then pure [] else g.separated g.typeId
  expect .rightParen "to close 'throw'"
  return .throwSpec (.ofList types)

/-- The default value of a parameter, or nothing. -/
def defaultValue (g : Grammar m) : m (Option Expr) := do
  if ← accept .assign then some <$> g.clause else return none

def parameter (g : Grammar m) : m (Tree .parameter) := do
  let specs ← g.specifiers .inBlock
  if specs.type.isNone then fail (.phrase "parameter type")
  let shape ← g.declarator .maybeNamed
  return .parameter specs.tree shape (.ofOption (← g.defaultValue))

/-- Parameters with commas between them. An ellipsis may stand for the last one or follow it. -/
def parameterItems (g : Grammar m) : m (List (Tree .parameter) × Bool) :=
  g.loop (fun items => do
    if ← accept .ellipsis then return .inr (items, true)
    let items := items ++ [← g.parameter]
    if ← accept .ellipsis then return .inr (items, true)
    if ← accept .comma then return .inl items else return .inr (items, false)) []

def parameterList (g : Grammar m) : m (Tree .parameterList) := do
  expect .leftParen "to open parameter list"
  let (items, variadic) ← angleCloses false do
    if (← here).isAt .rightParen then return ([], false) else g.parameterItems
  expect .rightParen "to close parameter list"
  return .parameterList (.ofList items) variadic

/-- The qualifiers of a function. A later one of a sort replaces an earlier one. -/
structure FunctionQualifiers where
  cv : Qualifiers
  reference : Option ReferenceQualifier
  exception : Option (Tree .exceptionSpec)

def functionQualifiers (g : Grammar m) : m FunctionQualifiers :=
  g.loop (fun found => do
    if ← acceptWord .kwConst then
      return .inl { found with cv := { found.cv with isConst := true } }
    if ← acceptWord .kwVolatile then
      return .inl { found with cv := { found.cv with isVolatile := true } }
    if ← accept .ampersand then return .inl { found with reference := some .lvalue }
    if ← accept .andAnd then return .inl { found with reference := some .rvalue }
    if (← here).atExceptionSpec then
      return .inl { found with exception := some (← g.exceptionSpec) }
    return .inr found) (⟨.none, none, none⟩ : FunctionQualifiers)

/-- The result type of a function behind an arrow, or nothing. -/
def trailingResult (g : Grammar m) : m (Option TypeId) := do
  if ← accept .arrow then some <$> g.typeId else return none

def signature (g : Grammar m) : m (Tree .signature) := do
  let parameters ← g.parameterList
  let found ← g.functionQualifiers
  let result ← g.trailingResult
  return .signature parameters found.cv found.reference (.ofOption found.exception)
    (.ofOption result)

/-- The start of a first parameter that cannot be the start of an expression. -/
def parameterStart (g : Grammar m) : m Unit := do
  advance
  let specs ← g.specifiers .inBlock
  if specs.type.isNone then fail (.phrase "parameter type")
  unless specs.certain do
    let state ← here
    let declares := match state.kind with
      | .identifier _ => true
      | .punctuator mark => [.star, .ampersand, .andAnd, .ellipsis].contains mark
      | _ => false
    unless declares || state.atNestedDeclarator do fail (.phrase "parameter declarator")

/-- Whether the parenthesis here opens a parameter list and not an initializer. What may be either
is a parameter list. -/
def parameterListAhead (g : Grammar m) : m Bool := do
  let state ← here
  match state.ahead 1 with
  | .punctuator .rightParen | .punctuator .ellipsis => return true
  | .punctuator .leftBracket => return state.isAhead 2 .leftBracket
  | .keyword word =>
    return word.isBuiltinType || word.startsDeclaration || word == .kwDecltype
  | .identifier _ | .punctuator .scope => return (← lookahead g.parameterStart).isSome
  | _ => return false

def arraySize (g : Grammar m) : m (Option Expr) := do
  if (← here).isAt .rightBracket then return none else some <$> g.bracketed

def declaratorSuffixes (g : Grammar m) (mode : DeclaratorMode) :
    m (List (Tree .declaratorSuffix)) :=
  g.loop (fun found => do
    let state ← here
    if state.isAt .leftBracket && !state.isAhead 1 .leftBracket then
      advance
      let size ← g.arraySize
      expect .rightBracket "to close array bound"
      return .inl (found ++ [.arraySuffix (.ofOption size)])
    if state.isAt .leftParen then
      if mode == .unnamed || (← g.parameterListAhead) then
        return .inl (found ++ [.functionSuffix (← g.signature)])
    return .inr found) []

/-- The names of a structured binding. -/
def bindingNames (g : Grammar m) : m (List String) := do
  expect .leftBracket "to open structured binding"
  let names ← g.separated (expectIdentifier "in structured binding")
  expect .rightBracket "to close structured binding"
  return names

def declaratorCore (g : Grammar m) (mode : DeclaratorMode) : m (Tree .declaratorCore) := do
  let state ← here
  if state.atNestedDeclarator then
    advance
    let inner ← g.declarator mode
    expect .rightParen "to close declarator"
    return .nestedDeclarator inner
  if mode != .unnamed && state.atDeclaredName then
    return .declaredName (← g.name)
  if mode == .named then
    if state.isAt .leftBracket then return .bindings (← g.bindingNames)
    fail (.phrase "declarator name")
  return .unnamed

def declaratorRule (g : Grammar m) (mode : DeclaratorMode) : m Declarator :=
  nested do
    let pointers ← g.pointerOperators
    if mode == .pointersOnly then return .declarator (.ofList pointers) false .unnamed .nil
    let pack ← accept .ellipsis
    let core ← g.declaratorCore mode
    let suffixes ← g.declaratorSuffixes mode
    return .declarator (.ofList pointers) pack core (.ofList suffixes)

end Grammar

end CppSyntax
