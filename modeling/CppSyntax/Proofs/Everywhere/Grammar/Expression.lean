import CppSyntax.Proofs.Everywhere.Grammar.Type
import CppSyntax.Grammar.Expression

/-!
Expressions. The statements in them stand in the bodies of lambdas.
-/

set_option synthInstance.maxSize 4096

namespace CppSyntax.Grammar

open CppSyntax.Parser

variable {Q : Tree .statementForm → Prop} {g : Grammar Parser} [g.Bearer Q]

instance : Builds Q g.block := by
  unfold Grammar.block
  infer_instance

instance foldRight_builds (op : BinaryOp) : Builds Q (g.foldRight op) := by
  unfold Grammar.foldRight
  refine .andThen inferInstance fun place => ?_
  split
  · infer_instance
  · refine .andThen inferInstance fun context => ?_
    split <;> infer_instance

instance : Builds Q g.fold := by
  unfold Grammar.fold
  infer_instance

instance : Builds Q g.parenthesized := by
  unfold Grammar.parenthesized
  infer_instance

instance : Builds Q g.capturedName := by
  unfold Grammar.capturedName
  infer_instance

instance capture_builds : Builds Q g.capture := by
  unfold Grammar.capture
  refine .andThen inferInstance fun place => ?_
  have either : Builds Q (match place.value.ahead 1 with
      | .identifier _ => do
        let (ident, init, pack) ← g.capturedName
        return .captureReference ident (.ofOption init) pack
      | _ => return .referenceAll : Parser (Tree .capture)) := by
    split <;> infer_instance
  infer_instance

instance : Builds Q g.captures := by
  unfold Grammar.captures
  infer_instance

instance lambda_builds : Builds Q g.lambda := by
  unfold Grammar.lambda
  refine .andThen inferInstance fun _ => .andThen inferInstance fun captures => ?_
  refine .andThen inferInstance fun _ => .andThen inferInstance fun place => ?_
  have later (parameters : Bearing Q (Option (Tree .parameterList))) : Builds Q (do
      let (isMutable, isConstexpr) ← g.lambdaWords
      let exception ← if (← here).atExceptionSpec then some <$> g.exceptionSpec else pure none
      let result ← g.trailingResult
      let body ← g.block
      return .lambda (.ofList captures.value) (.ofOption parameters.value) isMutable isConstexpr
        (.ofOption exception) (.ofOption result) body : Parser Expr) := by
    infer_instance
  dsimp only
  split
  · exact .andThen inferInstance later
  · exact .andThen inferInstance later

instance (word : Keyword) (kind : CastKind) : Builds Q (g.keywordCast word kind) := by
  unfold Grammar.keywordCast
  infer_instance

instance functionalCast_builds : Builds Q g.functionalCast := by
  unfold Grammar.functionalCast
  refine .andThen inferInstance fun type => .andThen inferInstance fun place => ?_
  have plain : Throughout Q Tree.plainDeclarator := by
    unfold Tree.plainDeclarator
    infer_instance
  refine @Builds.branch _ _ _ _ _ _ _ inferInstance ?_
  refine .andThen inferInstance fun _ => .andThen inferInstance fun start => ?_
  refine .andThen inferInstance fun values => ?_
  obtain ⟨values, all⟩ := values
  rcases values with _ | ⟨inner, _ | ⟨second, rest⟩⟩
  · infer_instance
  · have all : Throughout Q inner := Throughout.list_iff.mp all inner (List.mem_singleton_self _)
    infer_instance
  · infer_instance

instance : Builds Q g.typeidOperand := by
  unfold Grammar.typeidOperand
  infer_instance

instance : Builds Q g.namedExpression := by
  unfold Grammar.namedExpression
  infer_instance

instance (kind : LiteralKind) (text : String) : Builds Q (literalOf kind text) := by
  unfold Grammar.literalOf
  infer_instance

instance keywordExpression_builds (word : Keyword) : Builds Q (g.keywordExpression word) := by
  unfold Grammar.keywordExpression
  split
  case h_7 => split <;> infer_instance
  all_goals infer_instance

instance primary_builds : Builds Q g.primary := by
  unfold Grammar.primary
  refine .andThen inferInstance fun place => ?_
  split <;> infer_instance

instance postfixStep_builds (object : Bearing Q Expr) : Builds Q (g.postfixStep object.value) := by
  unfold Grammar.postfixStep
  refine .andThen inferInstance fun place => ?_
  split <;> infer_instance

instance : Builds Q g.postfixed := by
  unfold Grammar.postfixed
  infer_instance

instance : Builds Q g.sizeofOperand := by
  unfold Grammar.sizeofOperand
  infer_instance

instance : Builds Q g.placementArguments := by
  unfold Grammar.placementArguments
  infer_instance

instance : Builds Q g.newPlacement := by
  unfold Grammar.newPlacement
  infer_instance

instance : Builds Q g.newType := by
  unfold Grammar.newType
  infer_instance

instance withBound_throughout {target : TypeId} {bound : Expr} [all : Throughout Q target] [Throughout Q bound] :
    
    Throughout Q (target.withBound bound) := by
  cases target with
  | typeId spec shape =>
    obtain ⟨allSpec, allRest⟩ := Throughout.cons_iff.mp all.parts
    cases shape with
    | declarator pointers pack core suffixes =>
      obtain ⟨allFront, allSuffixes⟩ := Throughout.append_iff.mp (Throughout.cons_iff.mp allRest).1.parts
      obtain ⟨allPointers, allCore⟩ := Throughout.append_iff.mp allFront
      have all : Throughout Q core := (Throughout.cons_iff.mp allCore).1
      have all : Throughout Q pointers := ⟨allPointers.everywhere⟩
      have all : Throughout Q suffixes := ⟨allSuffixes.everywhere⟩
      have all : Throughout Q suffixes.toList := Throughout.list_iff.mpr fun suffix member =>
        Throughout.tree_iff.mpr (allSuffixes.everywhere _ (List.mem_map_of_mem member))
      unfold Tree.withBound
      infer_instance

instance (target : Bearing Q TypeId) : Builds Q (g.elementBounds target.value) := by
  unfold Grammar.elementBounds
  infer_instance

instance (target : Bearing Q TypeId) : Builds Q (g.newSize target.value) := by
  unfold Grammar.newSize
  infer_instance

instance : Builds Q g.newInitializer := by
  unfold Grammar.newInitializer
  infer_instance

instance (isGlobal : Bool) : Builds Q (g.newExpression isGlobal) := by
  unfold Grammar.newExpression
  infer_instance

instance (isGlobal : Bool) : Builds Q (g.deleteExpression isGlobal) := by
  unfold Grammar.deleteExpression
  infer_instance

instance (word : Keyword) : Builds Q (g.keywordUnary word) := by
  unfold Grammar.keywordUnary
  split <;> infer_instance

instance unaryRule_builds : Builds Q g.unaryRule := by
  unfold Grammar.unaryRule
  refine .andThen inferInstance fun place => ?_
  split
  · infer_instance
  · split <;> infer_instance
  · infer_instance

instance : Builds Q g.castHead := by
  unfold Grammar.castHead
  infer_instance

instance : Builds Q g.castRule := by
  unfold Grammar.castRule
  infer_instance

instance binaryStep_builds (level : Nat) (left : Bearing Q Expr) :
    Builds Q (g.binaryStep level left.value) := by
  unfold Grammar.binaryStep
  refine .andThen inferInstance fun place => .andThen inferInstance fun context => ?_
  split <;> infer_instance

instance (level : Nat) : Builds Q (g.binaryRule level) := by
  unfold Grammar.binaryRule
  infer_instance

instance assignmentRule_builds : Builds Q g.assignmentRule := by
  unfold Grammar.assignmentRule
  have operated (target : Bearing Q Expr) (place : Bearing Q State) (context : Bearing Q Context) :
      Builds Q (match place.value.assignOp? context.value with
      | none => return target.value
      | some (op, width) => do
        advanceBy width
        return .assignment op target.value (← g.clause) : Parser Expr) := by
    split <;> infer_instance
  infer_instance

instance : Builds Q g.clauseRule := by
  unfold Grammar.clauseRule
  infer_instance

end CppSyntax.Grammar
