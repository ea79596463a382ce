import CppSyntax.Proofs.Account.Promise

/-!
Names. Segments introduce types only through what stands in their template arguments and targets.
-/

set_option synthInstance.maxSize 4096

namespace CppSyntax.Grammar

open CppSyntax.Parser

variable {g : Grammar Parser} [g.Accountable] {place : State} {known : List String}

instance : Accounts place known g.qualifiers := by
  unfold Grammar.qualifiers
  infer_instance

instance : Accounts place known g.memberPointerScope := by
  unfold Grammar.memberPointerScope
  infer_instance

instance : Accounts place known g.pointerOperators := by
  unfold Grammar.pointerOperators
  infer_instance

instance (word : Keyword) : Accounts place known (allocationSymbol word : Parser String) := by
  unfold Grammar.allocationSymbol
  infer_instance

instance (text : String) : Accounts place known (literalSymbol text : Parser String) := by
  unfold Grammar.literalSymbol
  infer_instance

instance operatorSymbol_accounts : Accounts place known (operatorSymbol : Parser (Option String)) := by
  unfold Grammar.operatorSymbol
  refine .byPlace fun there => ?_
  split
  · infer_instance
  · infer_instance
  · infer_instance
  · split <;> infer_instance
  · infer_instance

instance : Accounts place known g.conversionTarget := by
  unfold Grammar.conversionTarget
  infer_instance

instance : Accounts place known g.typeArgument := by
  unfold Grammar.typeArgument
  infer_instance

instance : Accounts place known g.templateArgument := by
  unfold Grammar.templateArgument
  infer_instance

instance : Accounts place known g.templateArguments := by
  unfold Grammar.templateArguments
  infer_instance

instance (inExpression : Bool) : Accounts place known (g.fittingTemplateArguments inExpression) := by
  unfold Grammar.fittingTemplateArguments
  infer_instance

instance (inExpression marked : Bool) :
    Accounts place known (g.plainSegment inExpression marked) := by
  unfold Grammar.plainSegment
  infer_instance

instance (inExpression : Bool) : Accounts place known (g.segment inExpression) := by
  unfold Grammar.segment
  infer_instance

instance (inExpression : Bool) (segments : List (Tree .segment)) [Known segments known] :
    Accounts place known (g.nameStep inExpression segments) := by
  unfold Grammar.nameStep
  infer_instance

instance (inExpression : Bool) : Accounts place known (g.nameRule inExpression) := by
  unfold Grammar.nameRule
  infer_instance

end CppSyntax.Grammar
