import CppSyntax.Grammar.Declarator

/-!
Operands: literals, names, expressions in parentheses, folds, lambdas and the keyword casts, and what
may be appended to them.
-/

namespace CppSyntax

/-- The operator that a mark stands for between two operands. Two joint `>` are a shift, but inside
template arguments `>` and `>=` are no operators. The number says how many tokens the operator has. -/
def State.binaryOp? (state : State) (context : Context) : Option (BinaryOp × Nat) :=
  match state.kind with
  | .punctuator mark =>
    match mark with
    | .orOr => some (.logicalOr, 1)
    | .andAnd => some (.logicalAnd, 1)
    | .pipe => some (.bitOr, 1)
    | .caret => some (.bitXor, 1)
    | .ampersand => some (.bitAnd, 1)
    | .equal => some (.equal, 1)
    | .notEqual => some (.notEqual, 1)
    | .spaceship => some (.spaceship, 1)
    | .less => some (.less, 1)
    | .lessEq => some (.lessEq, 1)
    | .greaterEq => if context.inTemplateArguments then none else some (.greaterEq, 1)
    | .greater =>
      if context.inTemplateArguments then none
      else if state.current.joint && state.isAhead 1 .greater then some (.shiftRight, 2)
      else if state.current.joint && state.isAhead 1 .greaterEq then none
      else some (.greater, 1)
    | .shiftLeft => some (.shiftLeft, 1)
    | .plus => some (.add, 1)
    | .minus => some (.sub, 1)
    | .star => some (.mul, 1)
    | .slash => some (.div, 1)
    | .percent => some (.mod, 1)
    | .dotStar => some (.memberOf, 1)
    | .arrowStar => some (.memberThrough, 1)
    | _ => none
  | _ => none

/-- The operator of a fold, which may be a comma. -/
def State.foldOp? (state : State) (context : Context) : Option (BinaryOp × Nat) :=
  if state.isAt .comma then some (.comma, 1) else state.binaryOp? context

/-- Whether an ellipsis that follows an operator comes before the parenthesis that is open at the
front of the tokens is closed. -/
def foldsAhead (depth : Nat) (previous : Option TokenKind) : List Token → Bool
  | [] => false
  | token :: rest =>
    let kind := token.kind
    let afterOperator := match previous with
      | none => true
      | some (.punctuator mark) =>
        !([.rightParen, .rightBracket, .rightBrace, .ellipsis].contains mark)
      | some _ => false
    if kind == .endOfFile then false
    else if kind.opensBracket then foldsAhead (depth + 1) (some kind) rest
    else if depth == 0 && kind == .punctuator .rightParen then false
    else if kind.closesBracket then foldsAhead (depth - 1) (some kind) rest
    else if depth == 0 && kind == .punctuator .ellipsis && afterOperator then true
    else foldsAhead depth (some kind) rest

def Keyword.castKind? : Keyword → Option CastKind
  | .kwStaticCast => some .static
  | .kwDynamicCast => some .dynamic
  | .kwConstCast => some .const
  | .kwReinterpretCast => some .reinterpret
  | _ => none

namespace Grammar

open CppSyntax.Parser

variable {m : Type → Type} [Monad m] [Reading m]

def block (g : Grammar m) : m (Tree .block) := do
  let (statements, closing) ← braced "block" <|
    angleCloses false <| g.itemsUntil .rightBrace (some <$> g.statement)
  return .block (.ofList statements) closing

def foldOperator : m BinaryOp := do
  match (← here).foldOp? (← context) with
  | some (op, width) => advanceBy width; return op
  | none => fail (.phrase "fold operator")

/-- The operand after the ellipsis of a fold, which the same operator must precede. -/
def foldRight (g : Grammar m) (op : BinaryOp) : m (Option Expr) := do
  let state ← here
  if state.isAt .rightParen then return none
  match state.foldOp? (← context) with
  | some (second, width) =>
    if second == op then
      advanceBy width
      return some (← g.cast)
    else fail (.phrase ("')' or '" ++ op.symbol ++ "' after '...'"))
  | none => fail (.phrase ("')' or '" ++ op.symbol ++ "' after '...'"))

/-- A fold between its parentheses. -/
def fold (g : Grammar m) : m Expr := do
  if ← accept .ellipsis then
    let op ← foldOperator
    return .fold op .absent (.present (← g.cast))
  let left ← g.cast
  let op ← foldOperator
  expect .ellipsis "in fold expression"
  return .fold op (.present left) (.ofOption (← g.foldRight op))

/-- What parentheses hold, a fold if one can be read. The opening one has been read. -/
def parenthesized (g : Grammar m) : m Expr := do
  let state ← here
  let folded ←
    if foldsAhead 0 none (state.current :: state.following) then
      attempt (angleCloses false g.fold)
    else pure none
  let inner ← match folded with
    | some inner => pure inner
    | none => g.bracketed
  expect .rightParen "to close parenthesized expression"
  return inner

/-- A captured name with its initializer, and whether it is a pack. -/
def capturedName (g : Grammar m) : m (String × Option Expr × Bool) := do
  let ident ← expectIdentifier "in lambda capture"
  let pack ← accept .ellipsis
  return (ident, ← g.defaultValue, pack)

def capture (g : Grammar m) : m (Tree .capture) := do
  let state ← here
  if ← accept .assign then return .copyAll
  if ← accept .ampersand then
    match state.ahead 1 with
    | .identifier _ =>
      let (ident, init, pack) ← g.capturedName
      return .captureReference ident (.ofOption init) pack
    | _ => return .referenceAll
  if ← acceptWord .kwThis then return .captureThis
  if state.isAt .star && state.isAheadWord 1 .kwThis then
    advanceBy 2
    return .captureCopyOfThis
  let (ident, init, pack) ← g.capturedName
  return .captureCopy ident (.ofOption init) pack

def captures (g : Grammar m) : m (List (Tree .capture)) := do
  if (← here).isAt .rightBracket then return [] else g.separated g.capture

/-- The words `mutable` and `constexpr` after the parameters of a lambda. -/
def lambdaWords (g : Grammar m) : m (Bool × Bool) :=
  g.loop (fun (isMutable, isConstexpr) => do
    if ← acceptWord .kwMutable then return .inl (true, isConstexpr)
    if ← acceptWord .kwConstexpr then return .inl (isMutable, true)
    return .inr (isMutable, isConstexpr)) (false, false)

def lambda (g : Grammar m) : m Expr := do
  expect .leftBracket "to open lambda captures"
  let captures ← angleCloses false g.captures
  expect .rightBracket "to close lambda captures"
  let parameters ←
    if (← here).isAt .leftParen then some <$> g.parameterList else pure none
  let (isMutable, isConstexpr) ← g.lambdaWords
  let exception ← if (← here).atExceptionSpec then some <$> g.exceptionSpec else pure none
  let result ← g.trailingResult
  let body ← g.block
  return .lambda (.ofList captures) (.ofOption parameters) isMutable isConstexpr
    (.ofOption exception) (.ofOption result) body

def keywordCast (g : Grammar m) (word : Keyword) (kind : CastKind) : m Expr := do
  advance
  expect .less ("after '" ++ word.spelling ++ "'")
  let target ← angleCloses true g.typeId
  expect .greater "to close cast type"
  expect .leftParen "before cast operand"
  let inner ← g.bracketed
  expect .rightParen "to close cast operand"
  return .cast kind target inner

/-- A builtin type used like a function. Without an operand it is the same as empty braces. -/
def functionalCast (g : Grammar m) : m Expr := do
  let type ← g.typeSpecifier
  if (← here).isAt .leftBrace then
    return .braced (.present type) (.ofList (← g.bracedList))
  expect .leftParen "after type in functional cast"
  let start := (← here).current.location
  match ← g.expressionList .rightParen with
  | [] => return .braced (.present type) .nil
  | [inner] => return .cast .functional (.typeId type Tree.plainDeclarator) inner
  | inner =>
    failWith ⟨start, .phrase "a single operand in functional cast", .operands inner.length⟩

/-- The operand of `typeid`: a type if it can be nothing else. -/
def typeidOperand (g : Grammar m) : m (Tree .operand) := do
  match ← attempt g.parenthesizedType with
  | some target => return .typeOperand target
  | none =>
    expect .leftParen "after 'typeid'"
    let value ← g.bracketed
    expect .rightParen "to close 'typeid'"
    return .valueOperand value

/-- The spelling of a string literal with those of the string literals right after it. -/
def stringRun (g : Grammar m) (first : String) : m String :=
  g.loop (fun text => do
    match (← here).kind with
    | .string more => advance; return .inl (text ++ " " ++ more)
    | _ => return .inr text) first

def literalOf (kind : LiteralKind) (text : String) : m Expr := do
  advance
  return .literal ⟨kind, text⟩

/-- A name, or a braced list of the type that it names. -/
def namedExpression (g : Grammar m) : m Expr := do
  let target ← g.nameInExpression
  if (← here).isAt .leftBrace then
    return .braced (.present (.namedType .none target)) (.ofList (← g.bracedList))
  return .nameExpression target

def keywordExpression (g : Grammar m) (word : Keyword) : m Expr := do
  match word with
  | .kwTrue | .kwFalse => literalOf .boolean word.spelling
  | .kwNullptr => literalOf .nullPointer word.spelling
  | .kwThis => advance; return .this
  | .kwTypeid => advance; return .typeid (← g.typeidOperand)
  | .kwOperator => g.namedExpression
  | _ =>
    match word.castKind? with
    | some kind => g.keywordCast word kind
    | none => if word.isBuiltinType then g.functionalCast else fail (.phrase "expression")

def primary (g : Grammar m) : m Expr := do
  match (← here).kind with
  | .integer text => literalOf .integer text
  | .floating text => literalOf .floating text
  | .character text => literalOf .character text
  | .string text => advance; return .literal ⟨.string, ← g.stringRun text⟩
  | .keyword word => g.keywordExpression word
  | .identifier _ | .punctuator .scope => g.namedExpression
  | .punctuator .leftParen => advance; g.parenthesized
  | .punctuator .leftBracket => g.lambda
  | .punctuator .leftBrace => return .braced .absent (.ofList (← g.bracedList))
  | _ => fail (.phrase "expression")

/-- One thing appended to an operand, or the operand when nothing follows. -/
def postfixStep (g : Grammar m) (object : Expr) : m (Expr ⊕ Expr) := do
  match (← here).kind with
  | .punctuator .leftParen =>
    advance
    return .inl (.call object (.ofList (← g.expressionList .rightParen)))
  | .punctuator .leftBracket =>
    advance
    let position ← angleCloses false g.expressionOrBraced
    expect .rightBracket "to close subscript"
    return .inl (.index object position)
  | .punctuator .dot => advance; return .inl (.member object false (← g.nameInExpression))
  | .punctuator .arrow => advance; return .inl (.member object true (← g.nameInExpression))
  | .punctuator .plusPlus => advance; return .inl (.unary .postIncrement object)
  | .punctuator .minusMinus => advance; return .inl (.unary .postDecrement object)
  | _ => return .inr object

def postfixed (g : Grammar m) : m Expr := do
  g.loop g.postfixStep (← g.primary)

end Grammar

end CppSyntax
