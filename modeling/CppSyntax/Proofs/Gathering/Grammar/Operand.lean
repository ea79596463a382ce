import CppSyntax.Proofs.Gathering.Grammar.Declarator
import CppSyntax.Grammar.Expression

/-!
Operands and the expressions above them. The size of an array to be created is read before the bounds
that go into the type in front of it.
-/

set_option synthInstance.maxSize 4096

namespace CppSyntax.Grammar

open CppSyntax.Parser

variable {g : Grammar Parser} [g.Gathering]

instance block_finishes : Finishes g.block := by
  unfold Grammar.block
  exact .closed .fresh inferInstance

instance foldOperator_collects : Collects (foldOperator : Parser BinaryOp) := by
  unfold Grammar.foldOperator
  refine .closed .fresh (.byPlace fun state => .nextPlain fun context => ?_)
  split <;> infer_instance

instance foldRight_collects (op : BinaryOp) : Collects (g.foldRight op) := by
  unfold Grammar.foldRight
  refine .closed .fresh (.byPlace fun state => ?_)
  split
  · infer_instance
  · refine .nextPlain fun context => ?_
    split <;> infer_instance

instance fold_collects : Collects g.fold := by
  unfold Grammar.fold
  exact .closed .fresh inferInstance

instance parenthesized_finishes : Finishes g.parenthesized := by
  unfold Grammar.parenthesized
  exact .closed .fresh inferInstance

instance capturedName_finishes : Finishes g.capturedName := by
  unfold Grammar.capturedName
  exact .closed .fresh inferInstance

instance capture_collects : Collects g.capture := by
  unfold Grammar.capture
  refine .closed .fresh (.byPlace fun state => ?_)
  have either : Collects (match state.ahead 1 with
      | .identifier _ => do
        let (ident, init, pack) ← g.capturedName
        return .captureReference ident (.ofOption init) pack
      | _ => return .referenceAll : Parser (Tree .capture)) := by
    refine .closed .fresh ?_
    split <;> infer_instance
  infer_instance

instance captures_collects : Collects g.captures := by
  unfold Grammar.captures
  exact .closed .fresh inferInstance

instance lambdaWords_collects : Collects g.lambdaWords := by
  unfold Grammar.lambdaWords
  exact .closed .fresh inferInstance

instance lambda_finishes : Finishes g.lambda := by
  unfold Grammar.lambda
  refine .closed .fresh (.nextPlain fun _ => .next fun captures => .nextPlain fun _ => ?_)
  refine .byPlace fun state => ?_
  have later (parameters : Option (Tree .parameterList)) :
      GathersOf (fun _ => .inside) piecesIn .inside ([] ++ piecesIn captures ++ piecesIn parameters) (do
        let (isMutable, isConstexpr) ← g.lambdaWords
        let exception ← if (← here).atExceptionSpec then some <$> g.exceptionSpec else pure none
        let result ← g.trailingResult
        let body ← g.block
        return .lambda (.ofList captures) (.ofOption parameters) isMutable isConstexpr
          (.ofOption exception) (.ofOption result) body : Parser Expr) := by
    infer_instance
  dsimp only
  split
  · exact .next later
  · exact .next later

instance keywordCast_finishes (word : Keyword) (kind : CastKind) :
    Finishes (g.keywordCast word kind) := by
  unfold Grammar.keywordCast
  exact .closed .fresh inferInstance

instance functionalCast_finishes : Finishes g.functionalCast := by
  unfold Grammar.functionalCast Tree.plainDeclarator
  refine .closed .fresh (.next fun type => .byPlace fun state => ?_)
  split
  · infer_instance
  refine .nextPlain fun _ => .byPlace fun start => .next fun inner => ?_
  split
  · infer_instance
  · rename_i inner
    have single : piecesIn [inner] = piecesIn inner := by simp
    rw [single]
    infer_instance
  · infer_instance

instance typeidOperand_collects : Collects g.typeidOperand := by
  unfold Grammar.typeidOperand
  exact .closed .fresh inferInstance

instance stringRun_collects (first : String) : Collects (g.stringRun first) := by
  unfold Grammar.stringRun
  have step (stretch : Stretch) (text : String) :
      GathersOf (fun _ => stretch) piecesIn stretch (piecesIn text) (do
        match (← here).kind with
        | .string more => advance; return .inl (text ++ " " ++ more)
        | _ => return .inr text : Parser (String ⊕ String)) := by
    refine .byPlace fun state => ?_
    split <;> infer_instance
  exact .closed .fresh inferInstance

instance literalOf_collects (kind : LiteralKind) (text : String) :
    Collects (literalOf kind text : Parser Expr) := by
  unfold Grammar.literalOf
  exact .closed .fresh inferInstance

instance namedExpression_finishes : Finishes g.namedExpression := by
  unfold Grammar.namedExpression
  exact .closed .fresh inferInstance

instance keywordExpression_collects (word : Keyword) : Collects (g.keywordExpression word) := by
  unfold Grammar.keywordExpression
  refine .closed .fresh ?_
  split
  · infer_instance
  · infer_instance
  · infer_instance
  · infer_instance
  · infer_instance
  · infer_instance
  · split <;> infer_instance

instance primary_collects : Collects g.primary := by
  unfold Grammar.primary
  refine .closed .fresh (.byPlace fun state => ?_)
  split <;> infer_instance

instance postfixStep_gathers (object : Expr) :
    Gathers (piecesIn object) .fresh piecesIn (g.postfixStep object) := by
  unfold Grammar.postfixStep
  refine .kept fun stretch => .byPlace fun state => ?_
  split <;> infer_instance

instance postfixed_collects : Collects g.postfixed := by
  unfold Grammar.postfixed
  exact .closed .fresh inferInstance

instance sizeofOperand_collects : Collects g.sizeofOperand := by
  unfold Grammar.sizeofOperand
  exact .closed .fresh inferInstance

instance placementArguments_finishes : Finishes g.placementArguments := by
  unfold Grammar.placementArguments
  exact .closed .fresh inferInstance

instance newPlacement_collects : Collects g.newPlacement := by
  unfold Grammar.newPlacement
  refine .closed .fresh (.byPlace fun state => ?_)
  split
  · refine .next fun found => ?_
    cases found with
    | none =>
      dsimp only [Option.getD]
      infer_instance
    | some values =>
      rw [piecesIn_some]
      dsimp only [Option.getD]
      infer_instance
  · infer_instance

instance newType_collects : Collects g.newType := by
  unfold Grammar.newType
  exact .closed .fresh inferInstance

theorem declarator_opened (pointers : Trees .pointerOperator) (pack : Bool) (core : Tree .declaratorCore)
    (suffixes : Trees .declaratorSuffix) :
    Remade (piecesIn (Tree.declarator pointers pack core suffixes))
      (piecesIn pointers ++ piecesIn core ++ piecesIn suffixes) := by
  have same : (Tree.declarator pointers pack core suffixes).pieces =
      piecesIn pointers ++ piecesIn core ++ piecesIn suffixes := by
    show (pointers.nodes ++ [core.node] ++ suffixes.nodes).map Node.piece = _
    rw [List.map_append, List.map_append]
    rfl
  refine same ▸ .opened rfl rfl (List.forall_mem_append.mpr ⟨List.forall_mem_append.mpr ⟨?_, ?_⟩, ?_⟩)
  · exact Trees.isPlaced_nodes rfl
  · exact List.forall_mem_singleton.mpr rfl
  · exact Trees.isPlaced_nodes rfl

/-- A type is taken apart, and made anew with one more bound behind it. -/
theorem withBound_remade (target : TypeId) (bound : Expr) :
    Remade (piecesIn target ++ piecesIn bound) (piecesIn (target.withBound bound)) := by
  match target with
  | .typeId spec (.declarator pointers pack core suffixes) =>
    have ofType : Remade (piecesIn (Tree.typeId spec (.declarator pointers pack core suffixes)))
        (piecesIn spec ++ piecesIn (Tree.declarator pointers pack core suffixes)) :=
      .opened rfl rfl (by simp [Tree.parts, Tree.node, Category.isPlaced])
    have opened := ofType.trans ((declarator_opened pointers pack core suffixes).behind (piecesIn spec))
    have made : Makes
        (piecesIn spec ++ piecesIn pointers ++ piecesIn core ++ piecesIn suffixes ++ piecesIn bound)
        ([] ++ piecesIn (Tree.typeId spec (.declarator pointers pack core
          (.ofList (suffixes.toList ++ [.arraySuffix (.present bound)]))))) := inferInstance
    have remade := made.remade
    simp only [List.nil_append, List.append_assoc] at remade opened
    refine (opened.inFront (piecesIn bound)).trans ?_
    simpa only [Tree.withBound, List.append_assoc] using remade

instance elementBounds_gathers (target : TypeId) :
    Gathers (piecesIn target) .fresh piecesIn (g.elementBounds target) := by
  unfold Grammar.elementBounds
  have step (stretch : Stretch) (target : TypeId) :
      GathersOf (fun _ => stretch) piecesIn stretch (piecesIn target) (do
        unless ← accept .leftBracket do return .inr target
        let bound ← g.bracketed
        expect .rightBracket "to close array bound"
        return .inl (target.withBound bound) : Parser (TypeId ⊕ TypeId)) := by
    refine .nextPlain fun bracket => ?_
    split
    · refine .next fun bound => .nextPlain fun _ => .answer inferInstance ⟨?_⟩
      exact withBound_remade target bound
    · infer_instance
  exact .kept fun stretch => inferInstance

instance newSize_gathers (target : TypeId) :
    Gathers (piecesIn target) .fresh piecesIn (g.newSize target) := by
  unfold Grammar.newSize
  refine .kept fun stretch => .nextPlain fun bracket => ?_
  split
  · refine .next fun size => .nextPlain fun _ => ?_
    have behind : Remade (piecesIn target ++ piecesIn size) (piecesIn size ++ piecesIn target) :=
      .swapped target (target.place?_eq_none rfl) (.part size.node)
    refine .makeFirst behind (.next fun bounded => .answer inferInstance ⟨?_⟩)
    exact .swapped size (size.place?_eq_none rfl) (.part bounded.node)
  · infer_instance

instance newInitializer_collects : Collects g.newInitializer := by
  unfold Grammar.newInitializer
  exact .closed .fresh inferInstance

instance newExpression_finishes (isGlobal : Bool) : Finishes (g.newExpression isGlobal) := by
  unfold Grammar.newExpression
  exact .closed .fresh inferInstance

instance deleteExpression_finishes (isGlobal : Bool) : Finishes (g.deleteExpression isGlobal) := by
  unfold Grammar.deleteExpression
  exact .closed .fresh inferInstance

instance keywordUnary_collects (word : Keyword) : Collects (g.keywordUnary word) := by
  unfold Grammar.keywordUnary
  refine .closed .fresh ?_
  split <;> infer_instance

instance unaryRule_collects : Collects g.unaryRule := by
  unfold Grammar.unaryRule
  refine .closed .fresh (.byPlace fun state => ?_)
  split
  · infer_instance
  · split <;> infer_instance
  · infer_instance

instance castHead_finishes : Finishes g.castHead := by
  unfold Grammar.castHead
  exact .closed .fresh inferInstance

instance castRule_collects : Collects g.castRule := by
  unfold Grammar.castRule
  exact .oneDeeper (.closed .fresh inferInstance)

instance binaryStep_gathers (level : Nat) (left : Expr) :
    Gathers (piecesIn left) .fresh piecesIn (g.binaryStep level left) := by
  unfold Grammar.binaryStep
  refine .kept fun stretch => .byPlace fun state => .nextPlain fun context => ?_
  split <;> infer_instance

instance binaryRule_collects (level : Nat) : Collects (g.binaryRule level) := by
  unfold Grammar.binaryRule
  exact .closed .fresh inferInstance

instance assignmentRule_collects : Collects g.assignmentRule := by
  unfold Grammar.assignmentRule
  have operated (target : Expr) (state : State) (context : Context) :
      GathersOf (fun _ => .fresh) piecesIn .fresh ([] ++ piecesIn target) (
        match state.assignOp? context with
        | none => return target
        | some (op, width) => do
          advanceBy width
          return .assignment op target (← g.clause) : Parser Expr) := by
    split <;> infer_instance
  exact .closed .fresh inferInstance

instance clauseRule_collects : Collects g.clauseRule := by
  unfold Grammar.clauseRule
  exact .closed .fresh inferInstance

end CppSyntax.Grammar
