import CppSyntax.Proofs.WellFormed.Grammar.Declarator
import CppSyntax.Grammar.Expression

/-!
Operands and the expressions above them. A functional cast is read only where the word of a builtin
type stands, and so it casts to one.
-/

set_option synthInstance.maxSize 4096

namespace CppSyntax.Grammar

open CppSyntax.Parser

variable {g : Grammar Parser} [sound : g.Sound]

instance : Yields g.block := by
  unfold Grammar.block
  infer_instance

instance foldBehind_fine {op : BinaryOp} {left : Part .expression} {right : Expr} [Fine left] [Fine right] :
    
    
    Fine (Tree.fold op left (.present right)) := by
  have fits : Holds (Tree.fold op left (.present right)).Fits := ⟨.inr rfl⟩
  infer_instance

instance foldBefore_fine {op : BinaryOp} {left : Expr} {right : Part .expression} [Fine left] [Fine right] :
    
    
    Fine (Tree.fold op (.present left) right) := by
  have fits : Holds (Tree.fold op (.present left) right).Fits := ⟨.inl rfl⟩
  infer_instance

instance foldRight_yields (op : BinaryOp) : Yields (g.foldRight op) := by
  unfold Grammar.foldRight
  refine .andThen inferInstance fun place => ?_
  split
  · infer_instance
  · refine .andThen inferInstance fun context => ?_
    split <;> infer_instance

instance : Yields g.fold := by
  unfold Grammar.fold
  infer_instance

instance : Yields g.parenthesized := by
  unfold Grammar.parenthesized
  infer_instance

instance : Yields g.capturedName := by
  unfold Grammar.capturedName
  infer_instance

instance capture_yields : Yields g.capture := by
  unfold Grammar.capture
  refine .andThen inferInstance fun place => ?_
  have either : Yields (match place.value.ahead 1 with
      | .identifier _ => do
        let (ident, init, pack) ← g.capturedName
        return .captureReference ident (.ofOption init) pack
      | _ => return .referenceAll : Parser (Tree .capture)) := by
    split <;> infer_instance
  infer_instance

instance : Yields g.captures := by
  unfold Grammar.captures
  infer_instance

instance lambda_yields : Yields g.lambda := by
  unfold Grammar.lambda
  refine .andThen inferInstance fun _ => .andThen inferInstance fun captures => ?_
  refine .andThen inferInstance fun _ => .andThen inferInstance fun place => ?_
  have later (parameters : Good (Option (Tree .parameterList))) : Yields (do
      let (isMutable, isConstexpr) ← g.lambdaWords
      let exception ← if (← here).atExceptionSpec then some <$> g.exceptionSpec else pure none
      let result ← g.trailingResult
      let body ← g.block
      return .lambda (.ofList captures.value) (.ofOption parameters.value) isMutable isConstexpr
        (.ofOption exception) (.ofOption result) body : Parser Expr) := by
    infer_instance
  dsimp only
  split
  · exact .andThen inferInstance later
  · exact .andThen inferInstance later

theorem keywordCast_yields {word : Keyword} {kind : CastKind} (found : word.castKind? = some kind) :
    Yields (g.keywordCast word kind) := by
  have other : kind ≠ .functional := by
    rintro rfl
    unfold Keyword.castKind? at found
    split at found <;> cases found
  have fits (target : TypeId) (inner : Expr) : Holds (Tree.cast kind target inner).Fits :=
    ⟨fun same => absurd same other⟩
  unfold Grammar.keywordCast
  infer_instance

theorem typeSpecifier_builtin : g.typeSpecifier.Ensures (·.atBuiltinType) fun type _ =>
    ∃ cv words, type = .builtinType cv words := by
  have specs : (g.specifiers .inBlock).Ensures (·.atBuiltinType) fun specs _ => specs.IsBuiltin :=
    sound.from_places fun _ _ isAt promised => promised.2 isAt
  have certain : g.certainTypeSpecifier.Ensures (·.atBuiltinType) fun found _ =>
      ∃ cv words, found.1 = .builtinType cv words := by
    refine .here fun place isAt => ?_
    refine .bind (specs.mono (fun _ here => here ▸ isAt) fun _ _ => id) fun specs => ?_
    refine .assume fun ⟨cv, words, isBuiltin⟩ => ?_
    rw [isBuiltin]
    exact .branch (fun _ => .failWithFirst _) fun _ => .pure fun _ _ => ⟨cv, words, rfl⟩
  exact .bind certain fun found => .pure fun _ isBuiltin => isBuiltin

/-- A builtin type used like a function. -/
theorem functionalCast_builtin :
    g.functionalCast.Ensures (·.atBuiltinType) fun value _ => Fine value := by
  refine .bind (.and (Yields.from_places _) typeSpecifier_builtin) fun type => ?_
  refine .assume fun ⟨fine, cv, words, isBuiltin⟩ => ?_
  have fits (inner : Expr) :
      Holds (Tree.cast .functional (.typeId type Tree.plainDeclarator) inner).Fits :=
    ⟨fun _ => ⟨cv, words, isBuiltin ▸ rfl⟩⟩
  have plain : Fine Tree.plainDeclarator := by
    unfold Tree.plainDeclarator
    infer_instance
  refine .here fun place _ => .branch (fun _ => Yields.from_places _) fun _ => ?_
  refine .bind .anything fun _ => .here fun start _ => ?_
  refine .bind (Yields.from_places _) fun values => .assume fun fineValues => ?_
  split
  · exact .pure fun _ _ => inferInstance
  · rename_i inner
    have fineInner : Fine inner := Fine.list_iff.mp fineValues inner (List.mem_singleton_self _)
    exact .pure fun _ _ => inferInstance
  · exact .failWith _

instance : Yields g.typeidOperand := by
  unfold Grammar.typeidOperand
  infer_instance

instance : Yields g.namedExpression := by
  unfold Grammar.namedExpression
  infer_instance

instance (kind : LiteralKind) (text : String) : Yields (literalOf kind text) := by
  unfold Grammar.literalOf
  infer_instance

theorem keywordExpression_keeps (word : Keyword) :
    (g.keywordExpression word).Ensures (fun state => state.kind = .keyword word) fun value _ =>
      Fine value := by
  unfold Grammar.keywordExpression
  split
  · exact Yields.from_places _
  · exact Yields.from_places _
  · exact Yields.from_places _
  · exact Yields.from_places _
  · exact Yields.from_places _
  · exact Yields.from_places _
  · split
    · rename_i kind found
      have yields : Yields (g.keywordCast word kind) := keywordCast_yields found
      exact Yields.from_places _
    · refine .branch (fun builtin => ?_) fun _ => .fail _
      exact .mono functionalCast_builtin (fun _ isAt => ⟨word, isAt, builtin⟩) fun _ _ => id

instance primary_yields : Yields g.primary := by
  unfold Grammar.primary
  refine ⟨.here fun place _ => ?_⟩
  split
  · exact Yields.from_places _
  · exact Yields.from_places _
  · exact Yields.from_places _
  · exact Yields.from_places _
  · rename_i word isAt
    exact (keywordExpression_keeps word).mono (fun state here => by rwa [here]) fun _ _ => id
  · exact Yields.from_places _
  · exact Yields.from_places _
  · exact Yields.from_places _
  · exact Yields.from_places _
  · exact Yields.from_places _
  · exact .fail _

instance postfixStep_yields (object : Good Expr) : Yields (g.postfixStep object.value) := by
  unfold Grammar.postfixStep
  refine .andThen inferInstance fun place => ?_
  split <;> infer_instance

instance : Yields g.postfixed := by
  unfold Grammar.postfixed
  infer_instance

instance : Yields g.sizeofOperand := by
  unfold Grammar.sizeofOperand
  infer_instance

instance : Yields g.placementArguments := by
  unfold Grammar.placementArguments
  infer_instance

instance : Yields g.newPlacement := by
  unfold Grammar.newPlacement
  infer_instance

instance : Yields g.newType := by
  unfold Grammar.newType
  infer_instance

instance withBound_fine {target : TypeId} {bound : Expr} [fine : Fine target] [Fine bound] :
    Fine (target.withBound bound) := by
  cases target with
  | typeId spec shape =>
    obtain ⟨fineSpec, fineRest⟩ := Fine.cons_iff.mp fine.parts
    cases shape with
    | declarator pointers pack core suffixes =>
      obtain ⟨fineFront, fineSuffixes⟩ := Fine.append_iff.mp (Fine.cons_iff.mp fineRest).1.parts
      obtain ⟨finePointers, fineCore⟩ := Fine.append_iff.mp fineFront
      have fine : Fine core := (Fine.cons_iff.mp fineCore).1
      have fine : Fine pointers := ⟨finePointers.sound⟩
      have fine : Fine suffixes := ⟨fineSuffixes.sound⟩
      unfold Tree.withBound
      infer_instance

instance (target : Good TypeId) : Yields (g.elementBounds target.value) := by
  unfold Grammar.elementBounds
  infer_instance

instance (target : Good TypeId) : Yields (g.newSize target.value) := by
  unfold Grammar.newSize
  infer_instance

instance : Yields g.newInitializer := by
  unfold Grammar.newInitializer
  infer_instance

instance (isGlobal : Bool) : Yields (g.newExpression isGlobal) := by
  unfold Grammar.newExpression
  infer_instance

instance (isGlobal : Bool) : Yields (g.deleteExpression isGlobal) := by
  unfold Grammar.deleteExpression
  infer_instance

instance (word : Keyword) : Yields (g.keywordUnary word) := by
  unfold Grammar.keywordUnary
  split <;> infer_instance

instance unaryRule_yields : Yields g.unaryRule := by
  unfold Grammar.unaryRule
  refine .andThen inferInstance fun place => ?_
  split
  · infer_instance
  · split <;> infer_instance
  · infer_instance

instance : Yields g.castHead := by
  unfold Grammar.castHead
  infer_instance

instance castRule_yields : Yields g.castRule := by
  unfold Grammar.castRule
  have fits (target : TypeId) (inner : Expr) : Holds (Tree.cast .parenthesized target inner).Fits :=
    ⟨nofun⟩
  infer_instance

instance binaryStep_yields (level : Nat) (left : Good Expr) :
    Yields (g.binaryStep level left.value) := by
  unfold Grammar.binaryStep
  refine .andThen inferInstance fun place => .andThen inferInstance fun context => ?_
  split <;> infer_instance

instance (level : Nat) : Yields (g.binaryRule level) := by
  unfold Grammar.binaryRule
  infer_instance

instance assignmentRule_yields : Yields g.assignmentRule := by
  unfold Grammar.assignmentRule
  have operated (target : Good Expr) (place : Good State) (context : Good Context) : Yields (
      match place.value.assignOp? context.value with
      | none => return target.value
      | some (op, width) => do
        advanceBy width
        return .assignment op target.value (← g.clause) : Parser Expr) := by
    split <;> infer_instance
  infer_instance

instance : Yields g.clauseRule := by
  unfold Grammar.clauseRule
  infer_instance

end CppSyntax.Grammar
