import CppSyntax.Grammar.Statement

/-!
The rules tied together. A grammar of a given depth answers by the rules over the grammar one level
below, so that every parser is defined by recursion on a number.
-/

namespace CppSyntax.Grammar

open CppSyntax.Parser

variable {m : Type → Type} [Monad m] [Reading m]

/-- The rule of every symbol. -/
def rule (g : Grammar m) : (symbol : Symbol) → m symbol.Value
  | .declaration scope => g.declarationRule scope
  | .statement => g.statementRule
  | .clause => g.clauseRule
  | .assignment => g.assignmentRule
  | .binary level => g.binaryRule level
  | .cast => g.castRule
  | .unary => g.unaryRule
  | .specifiers scope => g.specifiersRule scope
  | .declarator mode => g.declaratorRule mode
  | .name inExpression => g.nameRule inExpression
  | .templateParameters => g.templateParametersRule

/-- The parser of a symbol in which rules call each other at most so deep. -/
def derive (fuel : Nat) : Nat → (symbol : Symbol) → m symbol.Value
  | 0, _ => exhausted
  | depth + 1, symbol => rule ⟨fuel, derive fuel depth⟩ symbol

/-- The grammar with a given fuel for depth and for repetitions. -/
def ofFuel (fuel : Nat) : Grammar m := ⟨fuel, derive fuel fuel⟩

/-- All declarations up to the end of the text. -/
def translationUnit (g : Grammar m) : m TranslationUnit := do
  let declarations ← g.loop (fun found => do
    if (← here).atEnd then return .inr found
    return .inl (found ++ (← g.declaration .inNamespace).toList)) []
  return .unit (.ofList declarations) (← here).current.leadingComments

end CppSyntax.Grammar
