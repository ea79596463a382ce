import CppSyntax.Proofs.Gathering.Contract

/-!
What every symbol of the grammar gathers, and the rules that several areas share.
-/

set_option synthInstance.maxSize 4096

namespace CppSyntax

open CppSyntax.Parser

/-- Behind a declarator that must have a name a token has been read. -/
@[reducible] def DeclaratorMode.stretch : DeclaratorMode → Stretch
  | .named => .inside
  | .maybeNamed | .unnamed | .pointersOnly => .fresh

/-- The parser of a symbol gathers what it reads. -/
def Symbol.Gathering : (symbol : Symbol) → Parser symbol.Value → Prop
  | .declaration _, (p : Parser (Option Declaration)) => Rows p
  | .statement, (p : Parser Statement) => Rows p
  | .clause, (p : Parser Expr) | .assignment, (p : Parser Expr) | .binary _, (p : Parser Expr)
  | .cast, (p : Parser Expr) | .unary, (p : Parser Expr) => Collects p
  | .specifiers _, (p : Parser ParsedSpecifiers) => Collects p
  | .declarator mode, (p : Parser Declarator) => Gathers [] mode.stretch piecesIn p
  | .name _, (p : Parser Name) => Finishes p
  | .templateParameters, (p : Parser (List (Tree .templateParameter))) => Collects p

theorem piecesIn_type (specs : ParsedSpecifiers) : piecesIn specs.type = piecesIn specs := rfl

namespace Grammar

/-- All symbols of the grammar gather what they read. Where a declaration is read as nothing, a token
has been read. -/
class Gathering (g : Grammar Parser) : Prop where
  gathers (symbol : Symbol) : symbol.Gathering (g.parse symbol)
  stray (scope : Scope) {context : Context} {state reached : State} : state.Ended →
    g.declaration scope context state = .done none reached →
      Gathered .inside context.depth state reached []

variable {g : Grammar Parser} [gathering : g.Gathering]

instance (scope : Scope) : Rows (g.declaration scope) := gathering.gathers (.declaration scope)

instance : Rows g.statement := gathering.gathers .statement

instance : Collects g.clause := gathering.gathers .clause

instance : Collects g.assignment := gathering.gathers .assignment

instance (level : Nat) : Collects (g.binary level) := gathering.gathers (.binary level)

instance : Collects g.cast := gathering.gathers .cast

instance : Collects g.unary := gathering.gathers .unary

instance (scope : Scope) : Collects (g.specifiers scope) := gathering.gathers (.specifiers scope)

instance (mode : DeclaratorMode) : Gathers [] mode.stretch piecesIn (g.declarator mode) :=
  gathering.gathers (.declarator mode)

instance : Finishes g.name := gathering.gathers (.name false)

instance : Finishes g.nameInExpression := gathering.gathers (.name true)

instance : Collects g.templateParameters := gathering.gathers .templateParameters

instance separated_collects [HasNodes α] {item : Parser α} {out : Stretch} [Gathers [] out piecesIn item]
    [Stretch.Joins .fresh out] [Stretch.Frees (Stretch.join .fresh out) .fresh] :
    Collects (g.separated item) := by
  unfold Grammar.separated
  exact .closed .fresh inferInstance

instance itemsUntil_rows [HasNodes α] {item : Parser (Option α)} [Rows item] (close : Punctuator) :
    Rows (g.itemsUntil close item) := by
  unfold Grammar.itemsUntil
  exact .closed .whole inferInstance

instance commaStep_gathers (left : Expr) :
    Gathers (piecesIn left) .fresh piecesIn (g.commaStep left) := by
  unfold Grammar.commaStep
  exact .kept fun _ => inferInstance

instance expression_collects : Collects g.expression := by
  unfold Grammar.expression
  exact .closed .fresh inferInstance

instance : Collects g.bracketed := by
  unfold Grammar.bracketed
  infer_instance

instance conditional_collects : Collects g.conditional := by
  unfold Grammar.conditional
  exact .closed .fresh inferInstance

instance listStep_gathers (close : Punctuator) (items : List Expr) :
    Gathers (piecesIn items) .fresh piecesIn (g.listStep close items) := by
  unfold Grammar.listStep
  exact .kept fun _ => inferInstance

instance expressionList_finishes (close : Punctuator) : Finishes (g.expressionList close) := by
  unfold Grammar.expressionList
  exact .closed .fresh inferInstance

instance bracedList_finishes : Finishes g.bracedList := by
  unfold Grammar.bracedList
  exact .closed .fresh inferInstance

instance expressionOrBraced_collects : Collects g.expressionOrBraced := by
  unfold Grammar.expressionOrBraced
  exact .closed .fresh inferInstance

instance certainTypeSpecifier_collects : Collects g.certainTypeSpecifier := by
  unfold Grammar.certainTypeSpecifier
  refine .closed .fresh (.byPlace fun start => .next fun specs => ?_)
  rw [← piecesIn_type specs]
  cases found : specs.type with
  | none => infer_instance
  | some type =>
    rw [piecesIn_some]
    infer_instance

instance typeSpecifier_collects : Collects g.typeSpecifier := by
  unfold Grammar.typeSpecifier
  exact .closed .fresh inferInstance

instance certainTypeId_collects : Collects g.certainTypeId := by
  unfold Grammar.certainTypeId
  exact .closed .fresh inferInstance

instance typeId_collects : Collects g.typeId := by
  unfold Grammar.typeId
  exact .closed .fresh inferInstance

instance parenthesizedType_finishes : Finishes g.parenthesizedType := by
  unfold Grammar.parenthesizedType
  exact .closed .fresh inferInstance

end Grammar

end CppSyntax
