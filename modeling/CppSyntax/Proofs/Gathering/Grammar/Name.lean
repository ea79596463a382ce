import CppSyntax.Proofs.Gathering.Promise

/-!
Names. Every segment has a token of its own, and so has every name.
-/

set_option synthInstance.maxSize 4096

namespace CppSyntax.Grammar

open CppSyntax.Parser

variable {g : Grammar Parser} [g.Gathering]

instance qualifiers_collects : Collects g.qualifiers := by
  unfold Grammar.qualifiers
  exact .closed .fresh inferInstance

instance memberPointerScope_finishes : Finishes g.memberPointerScope := by
  unfold Grammar.memberPointerScope
  exact .closed .fresh inferInstance

instance pointerOperators_collects : Collects g.pointerOperators := by
  unfold Grammar.pointerOperators
  exact .closed .fresh inferInstance

instance allocationSymbol_collects (word : Keyword) :
    Collects (allocationSymbol word : Parser String) := by
  unfold Grammar.allocationSymbol
  exact .closed .fresh inferInstance

instance literalSymbol_collects (text : String) : Collects (literalSymbol text : Parser String) := by
  unfold Grammar.literalSymbol
  exact .closed .fresh inferInstance

instance operatorSymbol_collects : Collects (operatorSymbol : Parser (Option String)) := by
  unfold Grammar.operatorSymbol
  refine .closed .fresh (.byPlace fun state => ?_)
  split
  · infer_instance
  · infer_instance
  · infer_instance
  · split <;> infer_instance
  · infer_instance

instance conversionTarget_collects : Collects g.conversionTarget := by
  unfold Grammar.conversionTarget
  exact .closed .fresh inferInstance

instance typeArgument_collects : Collects g.typeArgument := by
  unfold Grammar.typeArgument
  exact .closed .fresh inferInstance

instance templateArgument_collects : Collects g.templateArgument := by
  unfold Grammar.templateArgument
  exact .closed .fresh inferInstance

instance templateArguments_finishes : Finishes g.templateArguments := by
  unfold Grammar.templateArguments
  exact .closed .fresh inferInstance

instance fittingTemplateArguments_finishes (inExpression : Bool) :
    Finishes (g.fittingTemplateArguments inExpression) := by
  unfold Grammar.fittingTemplateArguments
  exact .closed .fresh inferInstance

instance plainSegment_finishes (inExpression marked : Bool) :
    Finishes (g.plainSegment inExpression marked) := by
  unfold Grammar.plainSegment
  exact .closed .fresh inferInstance

instance segment_finishes (inExpression : Bool) : Finishes (g.segment inExpression) := by
  unfold Grammar.segment
  refine .closed .fresh (.nextPlain fun marked => .nextPlain fun tilde => ?_)
  split
  · infer_instance
  · exact .acceptWord inferInstance inferInstance

instance nameStep_gathers (inExpression : Bool) (segments : List (Tree .segment)) :
    Gathers (piecesIn segments) .inside piecesIn (g.nameStep inExpression segments) := by
  unfold Grammar.nameStep
  refine ⟨fun stretch joins => ?_⟩
  infer_instance

instance nameRule_finishes (inExpression : Bool) : Finishes (g.nameRule inExpression) := by
  unfold Grammar.nameRule
  have segments : GathersOf (fun _ => .inside) piecesIn .fresh []
      (g.loop (g.nameStep inExpression) []) := .advancing (g.nameStep inExpression) .fresh []
  exact .closed .fresh (.nextPlain fun isGlobal => .andThen segments fun _ => inferInstance)

end CppSyntax.Grammar
