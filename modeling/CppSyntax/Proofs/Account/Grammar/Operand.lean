import CppSyntax.Proofs.Account.Grammar.Declarator
import CppSyntax.Grammar.Expression

/-!
Operands and the expressions above them. The error about the operands of a functional cast is made by
hand; it stands at the token behind the parenthesis.
-/

set_option synthInstance.maxSize 4096

namespace CppSyntax

open CppSyntax.Parser

variable {place : State} {known : List String}

instance Known.withBound {target : TypeId} {bound : Expr} [holds : Known target known]
    [Known bound known] : Known (target.withBound bound) known := by
  match target, holds with
  | .typeId spec (.declarator pointers pack core suffixes), holds =>
    have all : spec.typeNames ++ (pointers.typeNames ++ core.typeNames ++ suffixes.typeNames) ⊆ known :=
      tree_iff.mp holds
    simp only [List.append_subset] at all
    obtain ⟨ofSpec, ⟨ofPointers, ofCore⟩, ofSuffixes⟩ := all
    have ofSpec : Known spec known := tree_iff.mpr ofSpec
    have ofCore : Known core known := tree_iff.mpr ofCore
    have ofPointers : Known pointers known := trees_iff.mpr ofPointers
    have ofSuffixes : Known suffixes known := trees_iff.mpr ofSuffixes
    unfold Tree.withBound
    infer_instance

namespace Grammar

variable {g : Grammar Parser} [g.Accountable]

instance : Accounts place known g.block := by
  unfold Grammar.block
  infer_instance

instance foldOperator_accounts : Accounts place known (foldOperator : Parser BinaryOp) := by
  unfold Grammar.foldOperator
  refine .byPlace fun there => .andThenPlain inferInstance fun context => ?_
  split <;> infer_instance

instance foldRight_accounts (op : BinaryOp) : Accounts place known (g.foldRight op) := by
  unfold Grammar.foldRight
  refine .byPlace fun there => ?_
  split
  · infer_instance
  · refine .andThenPlain inferInstance fun context => ?_
    split <;> infer_instance

instance : Accounts place known g.fold := by
  unfold Grammar.fold
  infer_instance

instance : Accounts place known g.parenthesized := by
  unfold Grammar.parenthesized
  infer_instance

instance : Accounts place known g.capturedName := by
  unfold Grammar.capturedName
  infer_instance

instance capture_accounts : Accounts place known g.capture := by
  unfold Grammar.capture
  refine .byPlace fun there => ?_
  have either : Accounts place known (match there.state.ahead 1 with
      | .identifier _ => do
        let (ident, init, pack) ← g.capturedName
        return .captureReference ident (.ofOption init) pack
      | _ => return .referenceAll : Parser (Tree .capture)) := by
    split <;> infer_instance
  infer_instance

instance : Accounts place known g.captures := by
  unfold Grammar.captures
  infer_instance

instance : Accounts place known g.lambdaWords := by
  unfold Grammar.lambdaWords
  infer_instance

instance lambda_accounts : Accounts place known g.lambda := by
  unfold Grammar.lambda
  refine .andThenPlain inferInstance fun _ => .andThen inferInstance fun captures => ?_
  refine .andThenPlain inferInstance fun _ => .byPlace fun there => ?_
  have later (parameters : Option (Tree .parameterList)) :
      Accounts place (known ++ namesIn captures ++ namesIn parameters) (do
        let (isMutable, isConstexpr) ← g.lambdaWords
        let exception ← if (← here).atExceptionSpec then some <$> g.exceptionSpec else pure none
        let result ← g.trailingResult
        let body ← g.block
        return .lambda (.ofList captures) (.ofOption parameters) isMutable isConstexpr
          (.ofOption exception) (.ofOption result) body : Parser Expr) := by
    infer_instance
  dsimp only
  split
  · exact .andThen inferInstance later
  · exact .andThen inferInstance later

instance (word : Keyword) (kind : CastKind) : Accounts place known (g.keywordCast word kind) := by
  unfold Grammar.keywordCast
  infer_instance

instance functionalCast_accounts : Accounts place known g.functionalCast := by
  unfold Grammar.functionalCast Tree.plainDeclarator
  refine .andThen inferInstance fun type => .byPlace fun there => ?_
  split
  · infer_instance
  refine .andThenPlain inferInstance fun _ => .byPlace fun start => .andThen inferInstance fun inner => ?_
  split
  · infer_instance
  · rename_i inner
    have holds : Known inner (known ++ namesIn type ++ namesIn [inner]) := ⟨by simp⟩
    infer_instance
  · infer_instance

instance : Accounts place known g.typeidOperand := by
  unfold Grammar.typeidOperand
  infer_instance

instance stringRun_accounts (first : String) : Accounts place known (g.stringRun first) := by
  unfold Grammar.stringRun
  have step (known : List String) (text : String) : Accounts place known (do
      match (← here).kind with
      | .string more => advance; return .inl (text ++ " " ++ more)
      | _ => return .inr text : Parser (String ⊕ String)) := by
    refine .byPlace fun there => ?_
    split <;> infer_instance
  infer_instance

instance (kind : LiteralKind) (text : String) :
    Accounts place known (literalOf kind text : Parser Expr) := by
  unfold Grammar.literalOf
  infer_instance

instance : Accounts place known g.namedExpression := by
  unfold Grammar.namedExpression
  infer_instance

instance (word : Keyword) : Accounts place known (g.keywordExpression word) := by
  unfold Grammar.keywordExpression
  split
  · infer_instance
  · infer_instance
  · infer_instance
  · infer_instance
  · infer_instance
  · infer_instance
  · split <;> infer_instance

instance primary_accounts : Accounts place known g.primary := by
  unfold Grammar.primary
  refine .byPlace fun there => ?_
  split <;> infer_instance

instance postfixStep_accounts (object : Expr) [Known object known] :
    Accounts place known (g.postfixStep object) := by
  unfold Grammar.postfixStep
  refine .byPlace fun there => ?_
  split <;> infer_instance

instance : Accounts place known g.postfixed := by
  unfold Grammar.postfixed
  infer_instance

instance : Accounts place known g.sizeofOperand := by
  unfold Grammar.sizeofOperand
  infer_instance

instance : Accounts place known g.placementArguments := by
  unfold Grammar.placementArguments
  infer_instance

instance : Accounts place known g.newPlacement := by
  unfold Grammar.newPlacement
  infer_instance

instance : Accounts place known g.newType := by
  unfold Grammar.newType
  infer_instance

instance (target : TypeId) [Known target known] : Accounts place known (g.elementBounds target) := by
  unfold Grammar.elementBounds
  infer_instance

instance (target : TypeId) [Known target known] : Accounts place known (g.newSize target) := by
  unfold Grammar.newSize
  infer_instance

instance : Accounts place known g.newInitializer := by
  unfold Grammar.newInitializer
  infer_instance

instance (isGlobal : Bool) : Accounts place known (g.newExpression isGlobal) := by
  unfold Grammar.newExpression
  infer_instance

instance (isGlobal : Bool) : Accounts place known (g.deleteExpression isGlobal) := by
  unfold Grammar.deleteExpression
  infer_instance

instance (word : Keyword) : Accounts place known (g.keywordUnary word) := by
  unfold Grammar.keywordUnary
  split <;> infer_instance

instance unaryRule_accounts : Accounts place known g.unaryRule := by
  unfold Grammar.unaryRule
  refine .byPlace fun there => ?_
  split
  · infer_instance
  · split <;> infer_instance
  · infer_instance

instance : Accounts place known g.castHead := by
  unfold Grammar.castHead
  infer_instance

instance : Accounts place known g.castRule := by
  unfold Grammar.castRule
  infer_instance

instance binaryStep_accounts (level : Nat) (left : Expr) [Known left known] :
    Accounts place known (g.binaryStep level left) := by
  unfold Grammar.binaryStep
  refine .byPlace fun there => .andThenPlain inferInstance fun context => ?_
  split <;> infer_instance

instance (level : Nat) : Accounts place known (g.binaryRule level) := by
  unfold Grammar.binaryRule
  infer_instance

instance assignmentRule_accounts : Accounts place known g.assignmentRule := by
  unfold Grammar.assignmentRule
  have operated (known : List String) (target : Expr) [Known target known] (there : Behind place)
      (context : Context) : Accounts place known (
        match there.state.assignOp? context with
        | none => return target
        | some (op, width) => do
          advanceBy width
          return .assignment op target (← g.clause) : Parser Expr) := by
    split <;> infer_instance
  infer_instance

instance : Accounts place known g.clauseRule := by
  unfold Grammar.clauseRule
  infer_instance

end Grammar

end CppSyntax
