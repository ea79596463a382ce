import CppSyntax.Grammar.Declaration
import CppSyntax.Grammar.Expression

/-!
Statements. One that starts with a name may be a declaration or an expression; it is a declaration
whenever that reading is plausible and can be completed.
-/

namespace CppSyntax

namespace Tree

/-- The statement ends in a statement of its own, which a comment behind it belongs to. -/
def endsInStatement : Tree .statementForm → Bool
  | .ifStatement .. | .forStatement .. | .rangeFor .. | .whileStatement .. | .switchStatement .. =>
    true
  | _ => false

/-- Whether the pointer operators of a declarator hold a reference. -/
def hasReference : Declarator → Bool
  | .declarator pointers _ _ _ =>
    pointers.toList.any fun
      | .lvalueReference | .rvalueReference => true
      | _ => false

/-- A declaration as a statement. Comments and place are those of the statement. -/
def asStatement : Declaration → Statement
  | .declaration place form =>
    .statement place (.declarationStatement (.declaration (.bare place.location) form))

end Tree

/-- What the first token of a statement says about it. -/
inductive StatementStart where
  | declares | evaluates | either

def State.statementStart (state : State) : StatementStart :=
  match state.kind with
  | .keyword word =>
    if word.startsDeclaration then .declares
    else if word.isBuiltinType || word == .kwDecltype then .either
    else .evaluates
  | .identifier _ => .either
  | .punctuator .leftBracket => if state.isAhead 1 .leftBracket then .declares else .evaluates
  | .punctuator .scope =>
    if state.isAheadWord 1 .kwNew || state.isAheadWord 1 .kwDelete then .evaluates else .either
  | _ => .evaluates

/-- Whether a declaration goes on or ends here. A reference must be initialized. -/
def State.followsDeclarator (state : State) (shape : Declarator) : Bool :=
  match state.kind with
  | .punctuator mark =>
    [.assign, .leftBrace, .leftParen].contains mark ||
      ([.semicolon, .comma].contains mark && !shape.hasReference)
  | _ => false

namespace Grammar

open CppSyntax.Parser

variable {m : Type → Type} [Monad m] [Reading m]

def declarationStatement (g : Grammar m) : m Statement := do
  let start := (← here).current.location
  match ← g.declaration .inBlock with
  | some inner => return inner.asStatement
  | none => return .statement (.bare start) .emptyStatement

def expressionStatement (g : Grammar m) : m Statement := do
  let place ← startPlacement
  let value ← g.expression
  expect .semicolon "after expression"
  return .statement { place with trailingComment := ← trailingComment } (.expressionStatement value)

/-- The start of a declaration that is more plausible than an expression. -/
def declarationStart (g : Grammar m) : m Unit := do
  let specs ← g.specifiers .inBlock
  if specs.type.isNone then fail (.phrase "type name")
  unless specs.certain do
    let shape ← g.declarator .named
    unless shape.isPlausible do fail (.phrase "declarator")
    unless (← here).followsDeclarator shape do fail (.phrase "initializer or ';'")

/-- The declaration is tried first. If neither can be read, the error that got further counts. -/
def eitherStatement (g : Grammar m) : m Statement := do
  let declares := (← lookahead g.declarationStart).isSome
  let declared ←
    if declares then some <$> speculate g.declarationStatement else pure none
  if let some (.ok statement) := declared then return statement
  match ← speculate g.expressionStatement, declared with
  | .ok statement, _ => return statement
  | .error error, some (.error earlier) => failWith (earlier.further error)
  | .error error, _ => failWith error

def declarationOrExpression (g : Grammar m) : m Statement := do
  match (← here).statementStart with
  | .declares => g.declarationStatement
  | .evaluates => g.expressionStatement
  | .either => g.eitherStatement

def condition (g : Grammar m) : m (Tree .condition) := do
  match ← attempt g.conditionDeclaration with
  | some inner => return .testDeclaration inner
  | none => return .testExpression (← g.expression)

/-- A condition that a statement of its own may precede. -/
def initAndCondition (g : Grammar m) : m (Option Statement × Tree .condition) :=
  angleCloses false do
    let init ← attempt g.declarationOrExpression
    return (init, ← g.condition)

def ifForm (g : Grammar m) : m (Tree .statementForm) := do
  advance
  let isConstexpr ← acceptWord .kwConstexpr
  expect .leftParen "after 'if'"
  let (init, test) ← g.initAndCondition
  expect .rightParen "after if condition"
  let thenBranch ← g.statement
  let elseBranch ← if ← acceptWord .kwElse then some <$> g.statement else pure none
  return .ifStatement isConstexpr (.ofOption init) test thenBranch (.ofOption elseBranch)

def whileForm (g : Grammar m) : m (Tree .statementForm) := do
  advance
  expect .leftParen "after 'while'"
  let test ← angleCloses false g.condition
  expect .rightParen "after while condition"
  return .whileStatement test (← g.statement)

def doForm (g : Grammar m) : m (Tree .statementForm) := do
  advance
  let body ← g.statement
  expectWord .kwWhile "after do body"
  expect .leftParen "after 'while'"
  let test ← g.bracketed
  expect .rightParen "after do-while condition"
  expect .semicolon "after do-while"
  return .doStatement body test

def switchForm (g : Grammar m) : m (Tree .statementForm) := do
  advance
  expect .leftParen "after 'switch'"
  let (init, test) ← g.initAndCondition
  expect .rightParen "after switch condition"
  return .switchStatement (.ofOption init) test (← g.statement)

/-- What stands between the parentheses of a loop. -/
inductive LoopHeader where
  | counted (init : Option Statement) (test : Option (Tree .condition)) (step : Option Expr)
  | ranged (init : Option Statement) (element : Declaration) (range : Expr)

/-- The condition and the step of a loop. -/
def countedHeader (g : Grammar m) (init : Option Statement) : m LoopHeader := do
  let test ← if (← here).isAt .semicolon then pure none else some <$> g.condition
  expect .semicolon "after for condition"
  let step ← if (← here).isAt .rightParen then pure none else some <$> g.expression
  return .counted init test step

def rangedHeader (g : Grammar m) (init : Option Statement) : m LoopHeader := do
  let element ← g.rangeDeclaration
  expect .colon "in range-based for"
  return .ranged init element (← g.expressionOrBraced)

def loopHeader (g : Grammar m) : m LoopHeader := do
  if ← accept .semicolon then return ← g.countedHeader none
  if let some header ← attempt (g.rangedHeader none) then return header
  let init ← g.declarationOrExpression
  if let some header ← attempt (g.rangedHeader (some init)) then return header
  g.countedHeader (some init)

def forForm (g : Grammar m) : m (Tree .statementForm) := do
  advance
  expect .leftParen "after 'for'"
  let header ← angleCloses false g.loopHeader
  expect .rightParen "after for clauses"
  let body ← g.statement
  match header with
  | .counted init test step =>
    return .forStatement (.ofOption init) (.ofOption test) (.ofOption step) body
  | .ranged init element range => return .rangeFor (.ofOption init) element range body

/-- The parameter of a handler, or nothing for an ellipsis. -/
def handlerParameter (g : Grammar m) : m (Option (Tree .parameter)) := do
  if ← accept .ellipsis then return none else some <$> angleCloses false g.parameter

def handler (g : Grammar m) : m (Tree .handler) := do
  expect .leftParen "after 'catch'"
  let param ← g.handlerParameter
  expect .rightParen "after catch parameter"
  return .handler (.ofOption param) (← g.block)

/-- One more handler of a try block. -/
def handlerStep (g : Grammar m) (handlers : List (Tree .handler)) :
    m (List (Tree .handler) ⊕ List (Tree .handler)) := do
  unless ← acceptWord .kwCatch do return .inr handlers
  return .inl (handlers ++ [← g.handler])

def tryForm (g : Grammar m) : m (Tree .statementForm) := do
  advance
  let body ← g.block
  let handlers ← g.loop g.handlerStep []
  if handlers.isEmpty then fail (.phrase "'catch' after try block")
  return .tryStatement body (.ofList handlers)

def returnForm (g : Grammar m) : m (Tree .statementForm) := do
  advance
  let value ← if (← here).isAt .semicolon then pure none else some <$> g.expressionOrBraced
  expect .semicolon "after return statement"
  return .returnStatement (.ofOption value)

def gotoForm : m (Tree .statementForm) := do
  advance
  let target ← expectIdentifier "after 'goto'"
  expect .semicolon "after goto statement"
  return .goto target

def caseForm (g : Grammar m) : m (Tree .statementForm) := do
  advance
  let value ← g.conditional
  expect .colon "after case value"
  return .caseLabel value

/-- A word with the mark that ends it. -/
def wordForm (form : Tree .statementForm) (close : Punctuator) (purpose : String) :
    m (Tree .statementForm) := do
  advance
  expect close purpose
  return form

/-- The form that a keyword starts, if it starts one other than a declaration or an expression. -/
def statementKeyword? (g : Grammar m) : Keyword → Option (m (Tree .statementForm))
  | .kwIf => some g.ifForm
  | .kwWhile => some g.whileForm
  | .kwDo => some g.doForm
  | .kwFor => some g.forForm
  | .kwSwitch => some g.switchForm
  | .kwTry => some g.tryForm
  | .kwReturn => some g.returnForm
  | .kwBreak => some (wordForm .breakStatement .semicolon "after 'break'")
  | .kwContinue => some (wordForm .continueStatement .semicolon "after 'continue'")
  | .kwGoto => some gotoForm
  | .kwCase => some g.caseForm
  | .kwDefault => some (wordForm .defaultLabel .colon "after 'default'")
  | _ => none

/-- The form of a statement that is known from its first tokens. -/
def statementForm? (g : Grammar m) (state : State) : Option (m (Tree .statementForm)) :=
  match state.kind with
  | .directive text => some do
    advance
    return .declarationStatement (.declaration (.bare state.current.location) (.directive text))
  | .punctuator .leftBrace => some (Tree.compound <$> g.block)
  | .punctuator .semicolon => some do
    advance
    return .emptyStatement
  | .keyword word => g.statementKeyword? word
  | .identifier ident =>
    if state.isAhead 1 .colon then some do
      advanceBy 2
      return .namedLabel ident
    else none
  | _ => none

def statementRule (g : Grammar m) : m Statement :=
  nested do
    match g.statementForm? (← here) with
    | none => g.declarationOrExpression
    | some form =>
      let place ← startPlacement
      let form ← form
      let trailing ← if form.endsInStatement then pure none else trailingComment
      return .statement { place with trailingComment := trailing } form

end Grammar

end CppSyntax
