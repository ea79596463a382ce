import CppSyntax.Grammar.Operand

/-!
Expressions above operands: operators before an operand, casts, operators between operands by levels
of binding, and assignments.
-/

namespace CppSyntax

def Punctuator.assignOp? : Punctuator → Option AssignOp
  | .assign => some .assign
  | .plusAssign => some .add
  | .minusAssign => some .sub
  | .starAssign => some .mul
  | .slashAssign => some .div
  | .percentAssign => some .mod
  | .shiftLeftAssign => some .shiftLeft
  | .ampersandAssign => some .bitAnd
  | .pipeAssign => some .bitOr
  | .caretAssign => some .bitXor
  | _ => none

/-- The assignment operator here and its number of tokens. A right shift is assigned by `>` with a
joint `>=`. -/
def State.assignOp? (state : State) (context : Context) : Option (AssignOp × Nat) :=
  match state.kind with
  | .punctuator mark =>
    if mark == .greater && !context.inTemplateArguments && state.current.joint &&
        state.isAhead 1 .greaterEq then
      some (.shiftRight, 2)
    else mark.assignOp?.map (·, 1)
  | _ => none

/-- The operator before an operand. -/
def Punctuator.prefixOp? : Punctuator → Option UnaryOp
  | .plusPlus => some .preIncrement
  | .minusMinus => some .preDecrement
  | .plus => some .plus
  | .minus => some .minus
  | .bang => some .logicalNot
  | .tilde => some .bitNot
  | .star => some .dereference
  | .ampersand => some .addressOf
  | _ => none

/-- Whether the operand of a cast can start with a keyword. -/
def Keyword.startsCastOperand (word : Keyword) : Bool :=
  word.isBuiltinType || word.castKind?.isSome ||
    [.kwThis, .kwSizeof, .kwAlignof, .kwNew, .kwDelete, .kwTrue, .kwFalse, .kwNullptr, .kwTypeid,
      .kwNoexcept].contains word

/-- Whether what follows a name in parentheses makes it the type of a cast. A mark that could also
go on after an operand in parentheses does so only if the name is certain to be a type. -/
def TokenKind.followsCast (certain : Bool) : TokenKind → Bool
  | .identifier _ | .integer _ | .floating _ | .character _ | .string _ => true
  | .keyword word => word.startsCastOperand
  | .punctuator mark =>
    [.bang, .tilde].contains mark ||
      (certain && [.leftParen, .minus, .plus, .star, .ampersand, .plusPlus, .minusMinus, .scope,
        .leftBracket].contains mark)
  | _ => false

/-- The type with one more array bound. -/
def Tree.withBound : TypeId → Expr → TypeId
  | .typeId spec (.declarator pointers pack core suffixes), bound =>
    .typeId spec (.declarator pointers pack core
      (.ofList (suffixes.toList ++ [.arraySuffix (.present bound)])))

namespace Grammar

open CppSyntax.Parser

variable {m : Type → Type} [Monad m] [Reading m]

def sizeofOperand (g : Grammar m) : m (Tree .operand) := do
  if ← accept .ellipsis then
    expect .leftParen "after 'sizeof...'"
    let ident ← expectIdentifier "in 'sizeof...'"
    expect .rightParen "to close 'sizeof...'"
    return .packOperand ident
  if (← here).isAt .leftParen then
    if let some target ← attempt g.parenthesizedType then return .typeOperand target
  return .valueOperand (← g.unary)

/-- The arguments of a placement. Without a type behind them they are the type itself. -/
def placementArguments (g : Grammar m) : m (List Expr) := do
  advance
  let values ← g.expressionList .rightParen
  let state ← here
  let typeFollows : Bool := match state.kind with
    | .identifier _ | .keyword _ => true
    | .punctuator mark => [.scope, .leftParen].contains mark
    | _ => false
  if typeFollows then return values else fail (.phrase "type after placement arguments")

def newPlacement (g : Grammar m) : m (List Expr) := do
  if (← here).isAt .leftParen then return (← attempt g.placementArguments).getD [] else return []

/-- The type of a new object. Array bounds outside parentheses are not part of it. -/
def newType (g : Grammar m) : m TypeId := do
  if ← accept .leftParen then
    let target ← angleCloses false g.typeId
    expect .rightParen "to close type in 'new'"
    return target
  let type ← g.typeSpecifier
  return .typeId type (← g.declarator .pointersOnly)

/-- The bounds after the number of elements belong to the type of the elements. -/
def elementBounds (g : Grammar m) (target : TypeId) : m TypeId :=
  g.loop (fun target => do
    unless ← accept .leftBracket do return .inr target
    let bound ← g.bracketed
    expect .rightBracket "to close array bound"
    return .inl (target.withBound bound)) target

def newSize (g : Grammar m) (target : TypeId) : m (TypeId × Option Expr) := do
  unless ← accept .leftBracket do return (target, none)
  let size ← g.bracketed
  expect .rightBracket "to close array size"
  return (← g.elementBounds target, some size)

def newInitializer (g : Grammar m) : m (Option (Tree .initializer)) := do
  if ← accept .leftParen then
    return some (.parenInit (.ofList (← g.expressionList .rightParen)))
  if (← here).isAt .leftBrace then return some (.braceInit (.ofList (← g.bracedList)))
  return none

def newExpression (g : Grammar m) (isGlobal : Bool) : m Expr := do
  expectWord .kwNew "before a type"
  let placement ← g.newPlacement
  let target ← g.newType
  let (target, size) ← g.newSize target
  let init ← g.newInitializer
  return .newExpression isGlobal (.ofList placement) target (.ofOption size) (.ofOption init)

def deleteExpression (g : Grammar m) (isGlobal : Bool) : m Expr := do
  expectWord .kwDelete "before an operand"
  let state ← here
  let isArray := state.isAt .leftBracket && state.isAhead 1 .rightBracket
  if isArray then advanceBy 2
  return .deleteExpression isGlobal isArray (← g.cast)

/-- An operator that is spelled as a word, or an operand. -/
def keywordUnary (g : Grammar m) (word : Keyword) : m Expr := do
  match word with
  | .kwSizeof => advance; return .sizeof (← g.sizeofOperand)
  | .kwAlignof =>
    advance
    expect .leftParen "after 'alignof'"
    let target ← angleCloses false g.typeId
    expect .rightParen "to close 'alignof'"
    return .alignof target
  | .kwNoexcept =>
    advance
    expect .leftParen "after 'noexcept'"
    let inner ← g.bracketed
    expect .rightParen "to close 'noexcept'"
    return .noexceptExpression inner
  | .kwNew => g.newExpression false
  | .kwDelete => g.deleteExpression false
  | _ => g.postfixed

def unaryRule (g : Grammar m) : m Expr := do
  let state ← here
  match state.kind with
  | .keyword word => g.keywordUnary word
  | .punctuator mark =>
    match mark.prefixOp? with
    | some op => advance; return .unary op (← g.cast)
    | none =>
      if mark == .scope && state.isAheadWord 1 .kwNew then
        advance
        g.newExpression true
      else if mark == .scope && state.isAheadWord 1 .kwDelete then
        advance
        g.deleteExpression true
      else g.postfixed
  | _ => g.postfixed

/-- A type in parentheses with the operand of a cast behind it. -/
def castHead (g : Grammar m) : m TypeId := do
  expect .leftParen "to open cast"
  let (target, certain) ← angleCloses false g.certainTypeId
  expect .rightParen "to close cast"
  if (← here).kind.followsCast certain then return target else fail (.phrase "cast operand")

def castRule (g : Grammar m) : m Expr :=
  nested do
    unless (← here).isAt .leftParen do return ← g.unary
    match ← attempt g.castHead with
    | some target => return .cast .parenthesized target (← g.cast)
    | none => g.unary

/-- One more operator that binds at least as tightly as the level, with its right operand. Operators of
one level group to the left, so that the right operand binds more tightly. -/
def binaryStep (g : Grammar m) (level : Nat) (left : Expr) : m (Expr ⊕ Expr) := do
  match (← here).binaryOp? (← context) with
  | none => return .inr left
  | some (op, width) =>
    if op.precedence < level then return .inr left
    advanceBy width
    return .inl (.binary op left (← g.binary (op.precedence + 1)))

def binaryRule (g : Grammar m) (level : Nat) : m Expr := do
  g.loop (g.binaryStep level) (← g.cast)

/-- The tokens before which `throw` has no operand. -/
def throwsNothing : TokenKind → Bool
  | .punctuator mark =>
    [.semicolon, .rightParen, .comma, .colon, .rightBracket, .rightBrace].contains mark
  | _ => false

def assignmentRule (g : Grammar m) : m Expr := do
  if ← acceptWord .kwThrow then
    if throwsNothing (← here).kind then return .throwExpression .absent
    return .throwExpression (.present (← g.assignment))
  let target ← g.conditional
  match (← here).assignOp? (← context) with
  | none => return target
  | some (op, width) =>
    advanceBy width
    return .assignment op target (← g.clause)

def clauseRule (g : Grammar m) : m Expr := do
  if (← here).isAt .leftBrace then return .braced .absent (.ofList (← g.bracedList))
  else g.assignment

end Grammar

end CppSyntax
