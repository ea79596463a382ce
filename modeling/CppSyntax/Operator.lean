/-!
Operators of expressions: their spellings and how tightly the forms of expressions bind.
-/

namespace CppSyntax

namespace Precedence

def comma : Nat := 1
/-- Assignments, `throw` and pack expansions. -/
def assignment : Nat := 2
def conditional : Nat := 3
def logicalOr : Nat := 4
def logicalAnd : Nat := 5
def bitOr : Nat := 6
def bitXor : Nat := 7
def bitAnd : Nat := 8
def equality : Nat := 9
def spaceship : Nat := 10
def relational : Nat := 11
def shift : Nat := 12
def additive : Nat := 13
def multiplicative : Nat := 14
def pointerToMember : Nat := 15
/-- Operators written before their operand, and casts in parentheses. -/
def unary : Nat := 16
def postfixed : Nat := 17
def primary : Nat := 18

end Precedence

inductive BinaryOp where
  | comma | logicalOr | logicalAnd | bitOr | bitXor | bitAnd | equal | notEqual | spaceship
  | less | lessEq | greater | greaterEq | shiftLeft | shiftRight | add | sub | mul | div | mod
  | memberOf | memberThrough
deriving DecidableEq, Repr

namespace BinaryOp

def precedence : BinaryOp → Nat
  | .comma => Precedence.comma
  | .logicalOr => Precedence.logicalOr
  | .logicalAnd => Precedence.logicalAnd
  | .bitOr => Precedence.bitOr
  | .bitXor => Precedence.bitXor
  | .bitAnd => Precedence.bitAnd
  | .equal | .notEqual => Precedence.equality
  | .spaceship => Precedence.spaceship
  | .less | .lessEq | .greater | .greaterEq => Precedence.relational
  | .shiftLeft | .shiftRight => Precedence.shift
  | .add | .sub => Precedence.additive
  | .mul | .div | .mod => Precedence.multiplicative
  | .memberOf | .memberThrough => Precedence.pointerToMember

def symbol : BinaryOp → String
  | .comma => ","
  | .logicalOr => "||"
  | .logicalAnd => "&&"
  | .bitOr => "|"
  | .bitXor => "^"
  | .bitAnd => "&"
  | .equal => "=="
  | .notEqual => "!="
  | .spaceship => "<=>"
  | .less => "<"
  | .lessEq => "<="
  | .greater => ">"
  | .greaterEq => ">="
  | .shiftLeft => "<<"
  | .shiftRight => ">>"
  | .add => "+"
  | .sub => "-"
  | .mul => "*"
  | .div => "/"
  | .mod => "%"
  | .memberOf => ".*"
  | .memberThrough => "->*"

end BinaryOp

inductive AssignOp where
  | assign | add | sub | mul | div | mod | shiftLeft | shiftRight | bitAnd | bitOr | bitXor
deriving DecidableEq, Repr

def AssignOp.symbol : AssignOp → String
  | .assign => "="
  | .add => "+="
  | .sub => "-="
  | .mul => "*="
  | .div => "/="
  | .mod => "%="
  | .shiftLeft => "<<="
  | .shiftRight => ">>="
  | .bitAnd => "&="
  | .bitOr => "|="
  | .bitXor => "^="

inductive UnaryOp where
  | plus | minus | logicalNot | bitNot | preIncrement | preDecrement | postIncrement
  | postDecrement | dereference | addressOf
deriving DecidableEq, Repr

namespace UnaryOp

/-- Whether the operator is written after its operand. -/
def followsOperand : UnaryOp → Bool
  | .postIncrement | .postDecrement => true
  | _ => false

def symbol : UnaryOp → String
  | .plus => "+"
  | .minus => "-"
  | .logicalNot => "!"
  | .bitNot => "~"
  | .preIncrement | .postIncrement => "++"
  | .preDecrement | .postDecrement => "--"
  | .dereference => "*"
  | .addressOf => "&"

end UnaryOp

/-- The notations of a cast: a type in parentheses, a builtin type used like a function, or one of
the cast keywords. -/
inductive CastKind where
  | parenthesized | functional | static | dynamic | const | reinterpret
deriving DecidableEq, Repr

def CastKind.keyword? : CastKind → Option String
  | .static => some "static_cast"
  | .dynamic => some "dynamic_cast"
  | .const => some "const_cast"
  | .reinterpret => some "reinterpret_cast"
  | .parenthesized | .functional => none

inductive LiteralKind where
  | integer | floating | character | string | boolean | nullPointer
deriving DecidableEq, Repr

/-- A literal with its exact spelling. -/
structure Literal where
  kind : LiteralKind
  text : String
deriving DecidableEq, Repr

end CppSyntax
