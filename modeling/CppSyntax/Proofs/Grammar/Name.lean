import CppSyntax.Proofs.Parsing.Supply

/-!
Names and template arguments answer within the supply. A rule asks for symbols of a lower rank, or of
any rank once it has read a token.
-/

set_option synthInstance.maxSize 4096

namespace CppSyntax.Grammar

open CppSyntax.Parser

variable {supply : Supply} {rank : Nat}

instance [below : Below 8 rank] (scope : Scope) :
    Answers supply rank Always (supply.grammar.declaration scope) :=
  Answers.symbol (.declaration scope) below.lt

instance [below : Below 9 rank] : Answers supply rank Always supply.grammar.statement :=
  Answers.symbol .statement below.lt

instance [below : Below 7 rank] : Answers supply rank Never supply.grammar.clause :=
  Answers.symbol .clause below.lt

instance [below : Below 6 rank] : Answers supply rank Never supply.grammar.assignment :=
  Answers.symbol .assignment below.lt

instance [below : Below 5 rank] (level : Nat) :
    Answers supply rank Never (supply.grammar.binary level) :=
  Answers.symbol (.binary level) below.lt

instance [below : Below 4 rank] : Answers supply rank Never supply.grammar.cast :=
  Answers.symbol .cast below.lt

instance [below : Below 3 rank] : Answers supply rank Never supply.grammar.unary :=
  Answers.symbol .unary below.lt

instance [below : Below 2 rank] (scope : Scope) :
    Answers supply rank Never (supply.grammar.specifiers scope) :=
  Answers.symbol (.specifiers scope) below.lt

instance [below : Below 2 rank] (mode : DeclaratorMode) :
    Answers supply rank Never (supply.grammar.declarator mode) :=
  Answers.symbol (.declarator mode) below.lt

instance [below : Below 1 rank] : Answers supply rank Always supply.grammar.name :=
  Answers.symbol (.name false) below.lt

instance [below : Below 1 rank] : Answers supply rank Always supply.grammar.nameInExpression :=
  Answers.symbol (.name true) below.lt

instance [below : Below 0 rank] : Answers supply rank Never supply.grammar.templateParameters :=
  Answers.symbol .templateParameters below.lt

instance {item : Parser α} [Answers supply rank Never item] :
    Answers supply rank Never (supply.grammar.separated item) := by
  unfold Grammar.separated
  infer_instance

instance (left : Expr) : Answers supply rank GoesOn (supply.grammar.commaStep left) := by
  unfold Grammar.commaStep
  infer_instance

instance [Below 6 rank] : Answers supply rank Never supply.grammar.expression := by
  unfold Grammar.expression
  infer_instance

instance [Below 6 rank] : Answers supply rank Never supply.grammar.bracketed := by
  unfold Grammar.bracketed
  infer_instance

instance [Below 5 rank] : Answers supply rank Never supply.grammar.conditional := by
  unfold Grammar.conditional
  infer_instance

instance [Below 7 rank] (close : Punctuator) (items : List Expr) :
    Answers supply rank GoesOn (supply.grammar.listStep close items) := by
  unfold Grammar.listStep
  infer_instance

instance [Below 7 rank] (close : Punctuator) :
    Answers supply rank Always (supply.grammar.expressionList close) := by
  unfold Grammar.expressionList
  infer_instance

instance : Answers supply rank Always supply.grammar.bracedList := by
  unfold Grammar.bracedList
  infer_instance

instance [Below 6 rank] : Answers supply rank Never supply.grammar.expressionOrBraced := by
  unfold Grammar.expressionOrBraced
  infer_instance

instance certainTypeSpecifier_answers [Below 2 rank] :
    Answers supply rank Never supply.grammar.certainTypeSpecifier := by
  unfold Grammar.certainTypeSpecifier
  refine .andThen inferInstance fun state => ?_
  refine .andThen inferInstance fun specs => ?_
  cases specs.type <;> infer_instance

instance [Below 2 rank] : Answers supply rank Never supply.grammar.typeSpecifier := by
  unfold Grammar.typeSpecifier
  infer_instance

instance [Below 2 rank] : Answers supply rank Never supply.grammar.certainTypeId := by
  unfold Grammar.certainTypeId
  infer_instance

instance [Below 2 rank] : Answers supply rank Never supply.grammar.typeId := by
  unfold Grammar.typeId
  infer_instance

instance [Below 2 rank] : Answers supply rank Never supply.grammar.parenthesizedType := by
  unfold Grammar.parenthesizedType
  infer_instance

instance (item : Parser (Option α)) [Answers supply rank Always item] (close : Punctuator) :
    Answers supply rank Never (supply.grammar.itemsUntil close item) := by
  unfold Grammar.itemsUntil
  infer_instance

instance : Answers supply rank Never supply.grammar.qualifiers := by
  unfold Grammar.qualifiers
  infer_instance

instance [Below 1 rank] : Answers supply rank Always supply.grammar.memberPointerScope := by
  unfold Grammar.memberPointerScope
  infer_instance

instance [Below 1 rank] : Answers supply rank Never supply.grammar.pointerOperators := by
  unfold Grammar.pointerOperators
  infer_instance

instance (word : Keyword) : Answers supply rank Never (allocationSymbol word) := by
  unfold Grammar.allocationSymbol
  infer_instance

instance (text : String) : Answers supply rank Never (literalSymbol text) := by
  unfold Grammar.literalSymbol
  infer_instance

instance operatorSymbol_answers : Answers supply rank Never operatorSymbol := by
  unfold Grammar.operatorSymbol
  refine .andThen inferInstance fun state => ?_
  split <;> try infer_instance
  split <;> infer_instance

instance : Answers supply 16 Never supply.grammar.conversionTarget := by
  unfold Grammar.conversionTarget
  infer_instance

instance : Answers supply 16 Never supply.grammar.typeArgument := by
  unfold Grammar.typeArgument
  infer_instance

instance : Answers supply 16 Never supply.grammar.templateArgument := by
  unfold Grammar.templateArgument
  infer_instance

instance : Answers supply rank Always supply.grammar.templateArguments := by
  unfold Grammar.templateArguments
  infer_instance

instance (inExpression : Bool) :
    Answers supply rank Always (supply.grammar.fittingTemplateArguments inExpression) := by
  unfold Grammar.fittingTemplateArguments
  infer_instance

instance (inExpression marked : Bool) :
    Answers supply rank Always (supply.grammar.plainSegment inExpression marked) := by
  unfold Grammar.plainSegment
  infer_instance

instance (inExpression : Bool) :
    Answers supply rank Always (supply.grammar.segment inExpression) := by
  unfold Grammar.segment
  infer_instance

instance (inExpression : Bool) (segments : List (Tree .segment)) :
    Answers supply rank Always (supply.grammar.nameStep inExpression segments) := by
  unfold Grammar.nameStep
  infer_instance

instance nameRule_answers (inExpression : Bool) :
    Answers supply 1 Always (supply.grammar.nameRule inExpression) := by
  unfold Grammar.nameRule
  refine .andThen inferInstance fun isGlobal => ?_
  refine .movingThen (.loopAlways fun segments => ?_) fun segments => inferInstance
  infer_instance

end CppSyntax.Grammar
