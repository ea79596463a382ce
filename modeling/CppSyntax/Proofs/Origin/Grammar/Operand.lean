import CppSyntax.Proofs.Origin.Grammar.Declarator
import CppSyntax.Grammar.Expression

/-!
Operands and the expressions above them. A tree that is built step by step introduces at each step what
it did before, so that the names of its first operand are never lost.
-/

set_option synthInstance.maxSize 4096

namespace CppSyntax

open CppSyntax.Parser

theorem Tree.typeNames_withBound (target : TypeId) (bound : Expr) :
    (target.withBound bound).typeNames = target.typeNames ++ bound.typeNames := by
  match target with
  | .typeId spec (.declarator pointers pack core suffixes) =>
    have added : (Trees.ofList (suffixes.toList ++ [Tree.arraySuffix (.present bound)])).typeNames =
        suffixes.typeNames ++ bound.typeNames := by
      rw [← namesIn_trees, namesIn_ofList, namesIn_append, namesIn_toList, namesIn_trees]
      exact congrArg (suffixes.typeNames ++ ·) (List.append_nil _)
    show spec.typeNames ++ (pointers.typeNames ++ core.typeNames ++ Trees.typeNames _) =
      spec.typeNames ++ (pointers.typeNames ++ core.typeNames ++ suffixes.typeNames) ++ bound.typeNames
    simp only [added, List.append_assoc]

instance Covers.withBound {before : List String} {target : TypeId} {bound : Expr}
    [covers : Covers before target] : Covers before (target.withBound bound) := by
  rw [tree_iff, Tree.typeNames_withBound]
  exact List.subset_append_of_subset_left _ (tree_iff.mp covers)

instance Covers.ofBound {target : TypeId} {bound : Expr} :
    Covers (namesIn bound) (target.withBound bound) := by
  rw [tree_iff, Tree.typeNames_withBound, namesIn_tree]
  exact List.subset_append_right ..

namespace Grammar

variable {g : Grammar Parser} [g.Introducing]

instance : Introduces [] g.block := by
  unfold Grammar.block
  infer_instance

instance foldOperator_introduces : Introduces [] (foldOperator : Parser BinaryOp) := by
  unfold Grammar.foldOperator
  refine .byPlace fun place => .andThenPlain inferInstance fun context => ?_
  split <;> infer_instance

instance foldRight_introduces (op : BinaryOp) : Introduces [] (g.foldRight op) := by
  unfold Grammar.foldRight
  refine .byPlace fun place => ?_
  split
  · infer_instance
  · refine .andThenPlain inferInstance fun context => ?_
    split <;> infer_instance

instance : Introduces [] g.fold := by
  unfold Grammar.fold
  infer_instance

instance : Introduces [] g.parenthesized := by
  unfold Grammar.parenthesized
  infer_instance

instance : Introduces [] g.capturedName := by
  unfold Grammar.capturedName
  infer_instance

instance capture_introduces : Introduces [] g.capture := by
  unfold Grammar.capture
  refine .byPlace fun place => ?_
  have either : Introduces [] (match place.ahead 1 with
      | .identifier _ => do
        let (ident, init, pack) ← g.capturedName
        return .captureReference ident (.ofOption init) pack
      | _ => return .referenceAll : Parser (Tree .capture)) := by
    split <;> infer_instance
  infer_instance

instance : Introduces [] g.captures := by
  unfold Grammar.captures
  infer_instance

instance : Introduces [] g.lambdaWords := by
  unfold Grammar.lambdaWords
  infer_instance

/-- The exception specification makes nothing known, so that the lambda need not introduce anything of
it. -/
instance lambda_introduces : Introduces [] g.lambda := by
  unfold Grammar.lambda
  refine .andThenPlain inferInstance fun _ => .andThen inferInstance fun captures => ?_
  refine .andThenPlain inferInstance fun _ => .byPlace fun place => ?_
  have finish (parameters : Option (Tree .parameterList)) (isMutable isConstexpr : Bool)
      (exception : Option (Tree .exceptionSpec)) : Introduces (namesIn captures ++ namesIn parameters) (do
        let result ← g.trailingResult
        let body ← g.block
        return .lambda (.ofList captures) (.ofOption parameters) isMutable isConstexpr
          (.ofOption exception) (.ofOption result) body : Parser Expr) := by
    infer_instance
  have later (parameters : Option (Tree .parameterList)) :
      Introduces (namesIn captures ++ namesIn parameters) (do
        let (isMutable, isConstexpr) ← g.lambdaWords
        let exception ← if (← here).atExceptionSpec then some <$> g.exceptionSpec else pure none
        let result ← g.trailingResult
        let body ← g.block
        return .lambda (.ofList captures) (.ofOption parameters) isMutable isConstexpr
          (.ofOption exception) (.ofOption result) body : Parser Expr) := by
    refine .andThenPlain inferInstance fun (isMutable, isConstexpr) => .byPlace fun place => ?_
    dsimp only
    split
    · exact .andThenSilent inferInstance fun exception => finish parameters isMutable isConstexpr exception
    · exact finish parameters isMutable isConstexpr none
  dsimp only
  split
  · exact .andThen inferInstance later
  · exact .andThen inferInstance later

instance (word : Keyword) (kind : CastKind) : Introduces [] (g.keywordCast word kind) := by
  unfold Grammar.keywordCast
  infer_instance

instance functionalCast_introduces : Introduces [] g.functionalCast := by
  unfold Grammar.functionalCast Tree.plainDeclarator
  refine .andThen inferInstance fun type => .byPlace fun there => ?_
  split
  · infer_instance
  refine .andThenPlain inferInstance fun _ => .byPlace fun start => .andThen inferInstance fun inner => ?_
  split
  · infer_instance
  · infer_instance
  · infer_instance

instance : Introduces [] g.typeidOperand := by
  unfold Grammar.typeidOperand
  infer_instance

instance stringRun_introduces (first : String) : Introduces [] (g.stringRun first) := by
  unfold Grammar.stringRun
  have step (text : String) : Introduces (namesIn text) (do
      match (← here).kind with
      | .string more => advance; return .inl (text ++ " " ++ more)
      | _ => return .inr text : Parser (String ⊕ String)) := by
    refine .byPlace fun place => ?_
    split <;> infer_instance
  infer_instance

instance (kind : LiteralKind) (text : String) :
    Introduces [] (literalOf kind text : Parser Expr) := by
  unfold Grammar.literalOf
  infer_instance

instance : Introduces [] g.namedExpression := by
  unfold Grammar.namedExpression
  infer_instance

instance (word : Keyword) : Introduces [] (g.keywordExpression word) := by
  unfold Grammar.keywordExpression
  split
  · infer_instance
  · infer_instance
  · infer_instance
  · infer_instance
  · infer_instance
  · infer_instance
  · split <;> infer_instance

instance primary_introduces : Introduces [] g.primary := by
  unfold Grammar.primary
  refine .byPlace fun place => ?_
  split <;> infer_instance

instance postfixStep_introduces (object : Expr) :
    Introduces (namesIn object) (g.postfixStep object) := by
  unfold Grammar.postfixStep
  refine .byPlace fun place => ?_
  split <;> infer_instance

instance : Introduces [] g.postfixed := by
  unfold Grammar.postfixed
  infer_instance

instance : Introduces [] g.sizeofOperand := by
  unfold Grammar.sizeofOperand
  infer_instance

instance : Introduces [] g.placementArguments := by
  unfold Grammar.placementArguments
  infer_instance

instance : Introduces [] g.newPlacement := by
  unfold Grammar.newPlacement
  infer_instance

instance : Introduces [] g.newType := by
  unfold Grammar.newType
  infer_instance

instance (target : TypeId) : Introduces (namesIn target) (g.elementBounds target) := by
  unfold Grammar.elementBounds
  infer_instance

instance newSize_introduces (target : TypeId) : Introduces (namesIn target) (g.newSize target) := by
  unfold Grammar.newSize
  refine .andThenPlain inferInstance fun more => ?_
  split
  · refine .andThen inferInstance fun size => .andThenPlain inferInstance fun _ => ?_
    refine .andThenOf (inferInstance : Introduces (namesIn target) (g.elementBounds target)) ?_
    intro element covered
    have covers : Covers (namesIn target) element := ⟨covered⟩
    infer_instance
  · infer_instance

instance : Introduces [] g.newInitializer := by
  unfold Grammar.newInitializer
  infer_instance

instance newExpression_introduces (isGlobal : Bool) : Introduces [] (g.newExpression isGlobal) := by
  unfold Grammar.newExpression
  refine .andThenPlain inferInstance fun _ => .andThen inferInstance fun placement => ?_
  refine .andThen inferInstance fun target => ?_
  refine .andThenOver (inferInstance : Introduces (namesIn target) (g.newSize target)) ?_
  intro (element, size)
  infer_instance

instance (isGlobal : Bool) : Introduces [] (g.deleteExpression isGlobal) := by
  unfold Grammar.deleteExpression
  infer_instance

instance (word : Keyword) : Introduces [] (g.keywordUnary word) := by
  unfold Grammar.keywordUnary
  split <;> infer_instance

instance unaryRule_introduces : Introduces [] g.unaryRule := by
  unfold Grammar.unaryRule
  refine .byPlace fun place => ?_
  split
  · infer_instance
  · split <;> infer_instance
  · infer_instance

instance : Introduces [] g.castHead := by
  unfold Grammar.castHead
  infer_instance

instance : Introduces [] g.castRule := by
  unfold Grammar.castRule
  infer_instance

instance binaryStep_introduces (level : Nat) (left : Expr) :
    Introduces (namesIn left) (g.binaryStep level left) := by
  unfold Grammar.binaryStep
  refine .byPlace fun place => .andThenPlain inferInstance fun context => ?_
  split <;> infer_instance

instance (level : Nat) : Introduces [] (g.binaryRule level) := by
  unfold Grammar.binaryRule
  infer_instance

instance assignmentRule_introduces : Introduces [] g.assignmentRule := by
  unfold Grammar.assignmentRule
  have operated (target : Expr) (place : State) (context : Context) : Introduces (namesIn target) (
      match place.assignOp? context with
      | none => return target
      | some (op, width) => do
        advanceBy width
        return .assignment op target (← g.clause) : Parser Expr) := by
    split <;> infer_instance
  refine .andThenPlain inferInstance fun throws => ?_
  split
  · infer_instance
  · refine .andThen inferInstance fun target => .byPlace fun place => ?_
    exact .andThenPlain inferInstance fun context => operated target place context

instance : Introduces [] g.clauseRule := by
  unfold Grammar.clauseRule
  infer_instance

end Grammar

end CppSyntax
