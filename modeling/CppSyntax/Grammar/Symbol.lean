import CppSyntax.Parser.Basic
import CppSyntax.Tree.TypeNames

/-!
The symbols of the grammar through which its rules call each other, and what a parser of each symbol
answers. A rule is an ordinary definition over a `Grammar`, which offers a parser of every symbol.
-/

namespace CppSyntax

/-- Where a declaration stands, which decides about some of its forms. -/
inductive Scope where
  | inNamespace | inClass | inBlock
deriving DecidableEq, Repr

/-- What a declarator may hold: a name for certain, a name or none, no name at all, or nothing but
pointer operators. -/
inductive DeclaratorMode where
  | named | maybeNamed | unnamed | pointersOnly
deriving DecidableEq, Repr

/-- Specifiers as they were read. They are certain when they can be nothing but the start of a
declaration. -/
structure ParsedSpecifiers where
  attributes : List String
  alignment : List String
  modifiers : List Modifier
  type : Option TypeSpecifier
  isTypedef : Bool
  certain : Bool

def ParsedSpecifiers.tree (specs : ParsedSpecifiers) : Tree .specifiers :=
  .specifiers specs.attributes specs.alignment specs.modifiers (.ofOption specs.type)

inductive Symbol where
  /-- A declaration, or nothing for a stray semicolon. -/
  | declaration (scope : Scope)
  | statement
  /-- An assignment expression or a braced list. -/
  | clause
  | assignment
  /-- Operands joined by operators that bind at least as tightly as the level. -/
  | binary (level : Nat)
  | cast
  | unary
  | specifiers (scope : Scope)
  | declarator (mode : DeclaratorMode)
  | name (inExpression : Bool)
  | templateParameters
deriving DecidableEq, Repr

@[reducible] def Symbol.Value : Symbol → Type
  | .declaration _ => Option Declaration
  | .statement => Statement
  | .clause | .assignment | .binary _ | .cast | .unary => Expr
  | .specifiers _ => ParsedSpecifiers
  | .declarator _ => Declarator
  | .name _ => Name
  | .templateParameters => List (Tree .templateParameter)

/-- What the rules may use: a parser of every symbol, and fuel for repetitions. -/
structure Grammar (m : Type → Type) where
  fuel : Nat
  parse : (symbol : Symbol) → m symbol.Value

namespace Grammar

open CppSyntax.Parser

variable {m : Type → Type} [Monad m] [Reading m]

def declaration (g : Grammar m) (scope : Scope) : m (Option Declaration) :=
  g.parse (.declaration scope)

def statement (g : Grammar m) : m Statement := g.parse .statement

def clause (g : Grammar m) : m Expr := g.parse .clause

def assignment (g : Grammar m) : m Expr := g.parse .assignment

def binary (g : Grammar m) (level : Nat) : m Expr := g.parse (.binary level)

def cast (g : Grammar m) : m Expr := g.parse .cast

def unary (g : Grammar m) : m Expr := g.parse .unary

def specifiers (g : Grammar m) (scope : Scope) : m ParsedSpecifiers :=
  g.parse (.specifiers scope)

def declarator (g : Grammar m) (mode : DeclaratorMode) : m Declarator :=
  g.parse (.declarator mode)

/-- A name where `<` after an identifier may only open template arguments. -/
def name (g : Grammar m) : m Name := g.parse (.name false)

/-- A name where `<` after an identifier may also compare. -/
def nameInExpression (g : Grammar m) : m Name := g.parse (.name true)

def templateParameters (g : Grammar m) : m (List (Tree .templateParameter)) :=
  g.parse .templateParameters

/-- Repeats a step until it has a result. -/
def loop (g : Grammar m) (step : α → m (α ⊕ β)) (start : α) : m β :=
  iterate step g.fuel start

/-- Items separated by commas, at least one. -/
def separated (g : Grammar m) (item : m α) : m (List α) :=
  g.loop (fun items => do
    let items := items ++ [← item]
    if ← accept .comma then return .inl items else return .inr items) []

/-- Items up to the closing mark or the end of the text. -/
def itemsUntil (g : Grammar m) (close : Punctuator) (item : m (Option α)) : m (List α) :=
  g.loop (fun items => do
    let state ← here
    if state.isAt close || state.atEnd then return .inr items
    else return .inl (items ++ (← item).toList)) []

/-- One more operand of the comma operator. -/
def commaStep (g : Grammar m) (left : Expr) : m (Expr ⊕ Expr) := do
  if ← accept .comma then return .inl (.binary .comma left (← g.assignment))
  else return .inr left

/-- An expression with the comma operator. -/
def expression (g : Grammar m) : m Expr := do
  g.loop g.commaStep (← g.assignment)

/-- An expression inside brackets of its own. -/
def bracketed (g : Grammar m) : m Expr := angleCloses false g.expression

def conditional (g : Grammar m) : m Expr := do
  let test ← g.binary Precedence.logicalOr
  unless ← accept .question do return test
  let thenValue ← g.bracketed
  expect .colon "in conditional expression"
  return .conditional test thenValue (← g.assignment)

/-- One more clause of a list, which an ellipsis may expand, unless the closing mark is reached. -/
def listStep (g : Grammar m) (close : Punctuator) (items : List Expr) :
    m (List Expr ⊕ List Expr) := do
  if (← here).isAt close then return .inr items
  let item ← g.clause
  let item := if ← accept .ellipsis then Tree.packExpansion item else item
  let items := items ++ [item]
  if ← accept .comma then return .inl items else return .inr items

/-- Clauses separated by commas, the last comma optional, up to and including the closing mark. -/
def expressionList (g : Grammar m) (close : Punctuator) : m (List Expr) := do
  let items ← angleCloses false <| g.loop (g.listStep close) []
  expect close "to close list"
  return items

def bracedList (g : Grammar m) : m (List Expr) := do
  expect .leftBrace "to open initializer list"
  nested (g.expressionList .rightBrace)

/-- An expression, or a braced list where one is allowed. -/
def expressionOrBraced (g : Grammar m) : m Expr := do
  if (← here).isAt .leftBrace then return .braced .absent (.ofList (← g.bracedList))
  else g.expression

/-- A type without storage class, and whether it can only be a type. -/
def certainTypeSpecifier (g : Grammar m) : m (TypeSpecifier × Bool) := do
  let start := (← here).current.location
  let specs ← g.specifiers .inBlock
  if !specs.modifiers.isEmpty || specs.isTypedef then
    failWith ⟨start, .phrase "type name", .storageClass⟩
  match specs.type with
  | some type => return (type, specs.certain)
  | none => fail (.phrase "type name")

def typeSpecifier (g : Grammar m) : m TypeSpecifier :=
  Prod.fst <$> g.certainTypeSpecifier

/-- A type as written in casts and template arguments, and whether it can only be a type. -/
def certainTypeId (g : Grammar m) : m (TypeId × Bool) := do
  let (type, certain) ← g.certainTypeSpecifier
  let shape ← g.declarator .unnamed
  return (.typeId type shape, certain || !shape.isPlain)

def typeId (g : Grammar m) : m TypeId :=
  Prod.fst <$> g.certainTypeId

/-- A type in parentheses that can only be a type. -/
def parenthesizedType (g : Grammar m) : m TypeId := do
  expect .leftParen "to open type"
  let (target, certain) ← angleCloses false g.certainTypeId
  expect .rightParen "after type"
  if certain then return target else fail (.phrase "type operand")

end Grammar

end CppSyntax
