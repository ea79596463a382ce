import CppSyntax.Render.Type

/-!
Documents of expressions, and of the initializers in which they stand.
-/

namespace CppSyntax.Render

open Doc

def spacedSymbol : BinaryOp → String
  | .comma => ", "
  | .memberOf => BinaryOp.memberOf.symbol
  | .memberThrough => BinaryOp.memberThrough.symbol
  | op => " " ++ op.symbol ++ " "

/-- Whether an operator itself is a bare `>` for what stands before it. -/
def startsWithGreater : BinaryOp → Bool
  | .greater | .greaterEq | .shiftRight => true
  | _ => false

/-- Operators group to the left. The left operand of `<` is put into parentheses if it ends like a
name while a `>` follows, which together would be read as template arguments. -/
def binary (op : BinaryOp) (left right : Drawn .expression) : Doc := fun layout =>
  let rightText := right.operand (op.precedence + 1) layout
  let greaterAfter := layout.greaterFollows || hasBareGreater rightText
  let leftText := (left.operand op.precedence).before (greaterAfter || startsWithGreater op) layout
  let ambiguous := op == .less && endsWith isWordChar leftText && greaterAfter
  (if ambiguous then "(" ++ leftText ++ ")" else leftText) ++ spacedSymbol op ++ rightText

def assignment (op : AssignOp) (target value : Drawn .expression) : Doc :=
  target.operand Precedence.logicalOr ++ " " ++ op.symbol ++ " " ++
    value.operand Precedence.assignment

/-- The marks that would become another one if the operand went on with the same mark. -/
def canRepeat (c : Char) : Bool := c == '+' || c == '-' || c == '&'

def unary (op : UnaryOp) (inner : Drawn .expression) : Doc := fun layout =>
  if op.followsOperand then inner.operand Precedence.postfixed layout ++ op.symbol
  else
    let content := inner.operand Precedence.unary layout
    let apart := endsWith (fun c => canRepeat c && startsWith (· == c) content) op.symbol
    op.symbol ++ (if apart then " " else "") ++ content

def conditional (test thenValue elseValue : Drawn .expression) : Doc :=
  test.operand Precedence.logicalOr ++ " ? " ++ thenValue.anyExpression.enclosed ++ " : " ++
    elseValue.operand Precedence.assignment

def foldSymbol : BinaryOp → String
  | .comma => ","
  | op => " " ++ op.symbol

def fold (op : BinaryOp) (left right : Option (Drawn .expression)) : Doc :=
  (ifPresent (left.map (·.operand Precedence.unary ++ foldSymbol op ++ " ")) ++ "..." ++
    ifPresent (right.map (foldSymbol op ++ " " ++ ·.operand Precedence.unary))).enclosed.parenthesized

def call (callee : Drawn .expression) (values : List (Drawn .expression)) : Doc :=
  callee.operand Precedence.postfixed ++ Drawn.parenthesizedList values

def index (object position : Drawn .expression) : Doc :=
  object.operand Precedence.postfixed ++ "[" ++ position.anyExpression.enclosed ++ "]"

def member (object : Drawn .expression) (arrow : Bool) (target : Doc) : Doc :=
  object.operand Precedence.postfixed ++ (if arrow then "->" else ".") ++ target

def cast (kind : CastKind) (target : TypeDoc) (inner : Drawn .expression) : Doc :=
  match kind.keyword? with
  | some keyword =>
    keyword ++ "<" ++ target.doc ++ ">" ++ inner.anyExpression.enclosed.parenthesized
  | none =>
    if kind == .functional then target.doc ++ Drawn.parenthesizedList [inner]
    else target.doc.parenthesized ++ inner.operand Precedence.unary

def noexceptExpression (inner : Drawn .expression) : Doc :=
  "noexcept" ++ inner.anyExpression.enclosed.parenthesized

def deleteExpression (isGlobal isArray : Bool) (inner : Drawn .expression) : Doc :=
  onlyIf isGlobal "::" ++ (if isArray then "delete[] " else "delete ") ++
    inner.operand Precedence.unary

def throwExpression (inner : Option (Drawn .expression)) : Doc :=
  "throw" ++ spacedBefore (inner.map (·.operand Precedence.assignment))

/-- Whether the type of a new object needs no parentheses: it has nothing behind its pointer
operators. -/
def endsInPointers : TypeId → Bool
  | .typeId _ (.declarator _ _ .unnamed .nil) => true
  | _ => false

/-- The type of a new object. The number of elements stands before the other bounds. -/
def newType (target : Drawn .typeId) (size : Option (Drawn .expression)) : Doc :=
  match size with
  | some size => fun layout =>
    let shape := target.drawing.shape
    target.drawing.spec layout ++ DeclaratorDoc.attached (shape.pointers layout) ++ "[" ++
      size.anyExpression.enclosed layout ++ "]" ++ shape.core layout
  | none =>
    if endsInPointers target.tree then target.drawing.doc else target.drawing.doc.parenthesized

def newExpression (isGlobal : Bool) (placement : List (Drawn .expression))
    (target : Drawn .typeId) (size : Option (Drawn .expression)) (init : Option (Bool → Doc)) : Doc :=
  onlyIf isGlobal "::" ++ "new " ++
    (if placement.isEmpty then empty else Drawn.parenthesizedList placement ++ " ") ++
    newType target size ++ ifPresent (init.map (· false))

def capture (ident : String) (init : Option (Drawn .expression)) (pack : Bool) : Doc :=
  ident ++ onlyIf pack "..." ++ ifPresent (init.map (" = " ++ ·.operand Precedence.assignment))

def isEmptyBlock : Tree .block → Bool
  | .block .nil [] => true
  | _ => false

/-- A lambda. Its body opens on the line of its head whatever the style of braces is. -/
def lambda (captures : List Doc) (parameters : Option Doc) (isMutable isConstexpr : Bool)
    (exception : Option Doc) (result : Option TypeDoc) (body : Drawn .block) : Doc :=
  "[" ++ separated ", " captures ++ "]" ++ ifPresent parameters ++ onlyIf isMutable " mutable" ++
    onlyIf isConstexpr " constexpr" ++ spacedBefore exception ++ trailingResult result ++
    (if isEmptyBlock body.tree then text " \x7b\x7d" else " " ++ body.drawing.enclosed)

end CppSyntax.Render
