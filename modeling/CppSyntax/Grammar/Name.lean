import CppSyntax.Grammar.Symbol

/-!
Names: qualified names, the names of operators and conversions, and template arguments. After a name
in an expression, `<` opens template arguments only if a list can be read there and what follows it
cannot be the operand of a comparison.
-/

namespace CppSyntax.Grammar

open CppSyntax.Parser

variable {m : Type → Type} [Monad m] [Reading m]

/-- Qualifiers in any order and number. -/
def qualifiers (g : Grammar m) : m Qualifiers :=
  g.loop (fun cv => do
    if ← acceptWord .kwConst then return .inl { cv with isConst := true }
    if ← acceptWord .kwVolatile then return .inl { cv with isVolatile := true }
    return .inr cv) Qualifiers.none

/-- The class of a pointer to member, up to and including the star. -/
def memberPointerScope (g : Grammar m) : m Name := do
  let scope ← g.name
  expect .scope "in member pointer"
  expect .star "in member pointer"
  return scope

def pointerOperators (g : Grammar m) : m (List (Tree .pointerOperator)) :=
  g.loop (fun found => do
    if ← accept .star then return .inl (found ++ [.pointer (← g.qualifiers)])
    if ← accept .ampersand then return .inl (found ++ [.lvalueReference])
    if ← accept .andAnd then return .inl (found ++ [.rvalueReference])
    let state ← here
    if state.isAtIdentifier || state.isAt .scope then
      match ← attempt g.memberPointerScope with
      | some scope => return .inl (found ++ [.memberPointer scope (← g.qualifiers)])
      | none => return .inr found
    return .inr found) []

/-- The punctuators that alone name an operator. -/
def operatorMarks : List Punctuator :=
  [.plus, .minus, .star, .slash, .percent, .caret, .ampersand, .pipe, .tilde, .bang, .assign,
    .less, .greater, .lessEq, .greaterEq, .equal, .notEqual, .spaceship, .andAnd, .orOr, .plusPlus,
    .minusMinus, .shiftLeft, .shiftLeftAssign, .plusAssign, .minusAssign, .starAssign,
    .slashAssign, .percentAssign, .caretAssign, .ampersandAssign, .pipeAssign, .comma, .arrow,
    .arrowStar]

/-- The allocation operator of a keyword, with its brackets if they follow. -/
def allocationSymbol (word : Keyword) : m String := do
  advance
  let state ← here
  if state.isAt .leftBracket && state.isAhead 1 .rightBracket then
    advanceBy 2
    return word.spelling ++ "[]"
  return word.spelling

/-- The symbol of a literal operator, whose suffix may be a token of its own. -/
def literalSymbol (text : String) : m String := do
  advance
  return text ++ (← optionalIdentifier).getD ""

/-- The operator symbol of a punctuator: brackets come in pairs, and two joint marks may be one
symbol. -/
def markSymbol? (mark : Punctuator) (state : State) : Option (String × Nat) :=
  if mark == .leftParen && state.isAhead 1 .rightParen then some ("()", 2)
  else if mark == .leftBracket && state.isAhead 1 .rightBracket then some ("[]", 2)
  else if mark == .greater && state.current.joint && state.isAhead 1 .greater then some (">>", 2)
  else if mark == .greater && state.current.joint && state.isAhead 1 .greaterEq then some (">>=", 2)
  else if operatorMarks.contains mark then some (mark.spelling, 1)
  else none

/-- The symbol that an operator name goes on with, if it does not name a conversion. -/
def operatorSymbol : m (Option String) := do
  let state ← here
  match state.kind with
  | .keyword .kwNew => some <$> allocationSymbol .kwNew
  | .keyword .kwDelete => some <$> allocationSymbol .kwDelete
  | .string text =>
    if "\"\"".toList.isPrefixOf text.toList then some <$> literalSymbol text else return none
  | .punctuator mark =>
    match markSymbol? mark state with
    | some (symbol, width) => advanceBy width; return some symbol
    | none => return none
  | _ => return none

/-- The target of a conversion function: a type and pointer operators. -/
def conversionTarget (g : Grammar m) : m TypeId := do
  let type ← g.typeSpecifier
  let pointers ← g.pointerOperators
  return .typeId type (.declarator (.ofList pointers) false .unnamed .nil)

/-- The tokens that may follow a template-id in an expression. -/
def canFollowTemplateId : TokenKind → Bool
  | .endOfFile => true
  | .punctuator mark =>
    [.leftParen, .rightParen, .scope, .leftBrace, .rightBrace, .semicolon, .comma, .rightBracket,
      .greater, .ellipsis, .dot, .arrow, .assign, .equal, .notEqual, .andAnd, .orOr, .question,
      .colon].contains mark
  | _ => false

/-- A type that reaches to the end of a template argument. -/
def typeArgument (g : Grammar m) : m TypeId := do
  let target ← g.typeId
  let state ← here
  if state.isAt .comma || state.isAt .greater || state.isAt .ellipsis then return target
  else fail (.phrase "',' or '>' after template argument")

/-- A type where one can be read, else an expression. -/
def templateArgument (g : Grammar m) : m (Tree .templateArgument) := do
  let argument ← match ← attempt g.typeArgument with
    | some target => pure (.typeArgument target)
    | none => Tree.valueArgument <$> g.conditional
  if ← accept .ellipsis then return .packArgument argument else return argument

def templateArguments (g : Grammar m) : m (List (Tree .templateArgument)) := do
  expect .less "to open template arguments"
  let arguments ← nested <| angleCloses true do
    if (← here).isAt .greater then return []
    g.separated g.templateArgument
  expect .greater "to close template arguments"
  return arguments

/-- Template arguments that the use of the name allows. -/
def fittingTemplateArguments (g : Grammar m) (inExpression : Bool) :
    m (List (Tree .templateArgument)) := do
  let arguments ← g.templateArguments
  if inExpression && !canFollowTemplateId (← here).kind then
    fail (.phrase "token after template arguments")
  return arguments

/-- An identifier with the template arguments that may follow it. -/
def plainSegment (g : Grammar m) (inExpression marked : Bool) : m (Tree .segment) := do
  let ident ← expectIdentifier "in name"
  if (← here).isAt .less then
    if let some arguments ← attempt (g.fittingTemplateArguments inExpression) then
      return .templateSegment ident (.ofList arguments) marked
  return .plainSegment ident marked

/-- A segment of a name, and whether another one may follow. -/
def segment (g : Grammar m) (inExpression : Bool) : m (Tree .segment × Bool) := do
  let marked ← acceptWord .kwTemplate
  if ← accept .tilde then
    return (.destructorSegment (← expectIdentifier "after '~'") marked, false)
  if ← acceptWord .kwOperator then
    match ← operatorSymbol with
    | some symbol => return (.operatorSegment symbol marked, false)
    | none => return (.conversionSegment (← g.conversionTarget) marked, false)
  return (← g.plainSegment inExpression marked, true)

/-- The tokens after `::` with which a name goes on. -/
def continuesName : TokenKind → Bool
  | .identifier _ | .keyword .kwTemplate | .keyword .kwOperator | .punctuator .tilde => true
  | _ => false

/-- One more segment, with the `::` behind it if the name goes on there. -/
def nameStep (g : Grammar m) (inExpression : Bool) (segments : List (Tree .segment)) :
    m (List (Tree .segment) ⊕ List (Tree .segment)) := do
  let (segment, more) ← g.segment inExpression
  let segments := segments ++ [segment]
  let state ← here
  if more && state.isAt .scope && continuesName (state.ahead 1) then
    advance
    return .inl segments
  return .inr segments

def nameRule (g : Grammar m) (inExpression : Bool) : m Name := do
  let isGlobal ← accept .scope
  let segments ← g.loop (g.nameStep inExpression) []
  return .qualifiedName isGlobal (.ofList segments)

end CppSyntax.Grammar
