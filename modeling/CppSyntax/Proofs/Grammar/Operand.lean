import CppSyntax.Proofs.Grammar.Declarator
import CppSyntax.Grammar.Expression

/-!
Operands and the operators around them answer within the supply.
-/

set_option synthInstance.maxSize 4096

namespace CppSyntax.Grammar

open CppSyntax.Parser

variable {supply : Supply} {rank : Nat}

instance : Answers supply rank Always supply.grammar.block := by
  unfold Grammar.block
  infer_instance

instance foldOperator_answers : Answers supply rank Never foldOperator := by
  unfold Grammar.foldOperator
  refine .andThen inferInstance fun state => ?_
  refine .andThen inferInstance fun context => ?_
  cases state.foldOp? context <;> infer_instance

instance foldRight_answers (op : BinaryOp) : Answers supply 16 Never (supply.grammar.foldRight op) := by
  unfold Grammar.foldRight
  refine .andThen inferInstance fun state => ?_
  refine .iteOf inferInstance ?_
  refine .andThen inferInstance fun context => ?_
  cases state.foldOp? context <;> infer_instance

instance : Answers supply 16 Never supply.grammar.fold := by
  unfold Grammar.fold
  infer_instance

instance : Answers supply 16 Never supply.grammar.parenthesized := by
  unfold Grammar.parenthesized
  infer_instance

instance : Answers supply 16 Never supply.grammar.capturedName := by
  unfold Grammar.capturedName
  infer_instance

instance capture_answers : Answers supply 16 Never supply.grammar.capture := by
  unfold Grammar.capture
  refine .andThen inferInstance fun state => ?_
  cases state.ahead 1 <;> infer_instance

instance : Answers supply 16 Never supply.grammar.captures := by
  unfold Grammar.captures
  infer_instance

instance lambdaWords_answers : Answers supply rank Never supply.grammar.lambdaWords := by
  unfold Grammar.lambdaWords
  refine .loopOf fun (isMutable, isConstexpr) => ?_
  infer_instance

instance : Answers supply rank Always supply.grammar.lambda := by
  unfold Grammar.lambda
  infer_instance

theorem keywordCast_at (word : Keyword) (kind : CastKind) {state : State}
    (inside : state.atEnd = false) :
    AnswersAt supply rank Never state (supply.grammar.keywordCast word kind) := by
  unfold Grammar.keywordCast
  exact .advance inside inferInstance

instance functionalCast_answers [Below 2 rank] :
    Answers supply rank Never supply.grammar.functionalCast := by
  unfold Grammar.functionalCast
  refine .andThen inferInstance fun type => ?_
  refine .andThen inferInstance fun state => ?_
  refine .iteOf inferInstance ?_
  refine .movingThen inferInstance fun _ => ?_
  refine .andThen inferInstance fun state => ?_
  refine .andThen inferInstance fun values => ?_
  rcases values with _ | ⟨value, _ | ⟨second, rest⟩⟩ <;> infer_instance

instance : Answers supply 16 Never supply.grammar.typeidOperand := by
  unfold Grammar.typeidOperand
  infer_instance

instance stringRun_answers (first : String) :
    Answers supply rank Never (supply.grammar.stringRun first) := by
  unfold Grammar.stringRun
  refine .loopOf fun text => .byPlace fun state => ?_
  split
  · rename_i more string
    exact .advance (State.inside_of_kind string nofun) inferInstance
  · exact .anywhere

instance (kind : LiteralKind) (text : String) : Answers supply rank Never (literalOf kind text) := by
  unfold Grammar.literalOf
  infer_instance

instance [Below 1 rank] : Answers supply rank Never supply.grammar.namedExpression := by
  unfold Grammar.namedExpression
  infer_instance

theorem keywordExpression_at (word : Keyword) {state : State} (inside : state.atEnd = false) :
    AnswersAt supply 3 Never state (supply.grammar.keywordExpression word) := by
  unfold Grammar.keywordExpression
  split
  · exact .anywhere
  · exact .anywhere
  · exact .anywhere
  · exact .anywhere
  · exact .advance inside inferInstance
  · exact .anywhere
  · split
    · exact keywordCast_at _ _ inside
    · exact .anywhere

instance primary_answers : Answers supply 3 Never supply.grammar.primary := by
  unfold Grammar.primary
  refine .byPlace fun state => ?_
  split
  · exact .anywhere
  · exact .anywhere
  · exact .anywhere
  · rename_i known
    exact .advance (State.inside_of_kind known nofun) inferInstance
  · rename_i known
    exact keywordExpression_at _ (State.inside_of_kind known nofun)
  · exact .anywhere
  · exact .anywhere
  · rename_i known
    exact .advance (State.inside_of_kind known nofun) inferInstance
  · exact .anywhere
  · exact .anywhere
  · exact .anywhere

instance postfixStep_answers (object : Expr) :
    Answers supply rank GoesOn (supply.grammar.postfixStep object) := by
  unfold Grammar.postfixStep
  refine .byPlace fun state => ?_
  split
  · rename_i known
    exact .advance (State.inside_of_kind known nofun) inferInstance
  · rename_i known
    exact .advance (State.inside_of_kind known nofun) inferInstance
  · rename_i known
    exact .advance (State.inside_of_kind known nofun) inferInstance
  · rename_i known
    exact .advance (State.inside_of_kind known nofun) inferInstance
  · rename_i known
    exact .advance (State.inside_of_kind known nofun) inferInstance
  · rename_i known
    exact .advance (State.inside_of_kind known nofun) inferInstance
  · exact .anywhere

instance : Answers supply 3 Never supply.grammar.postfixed := by
  unfold Grammar.postfixed
  infer_instance

instance : Answers supply 16 Never supply.grammar.sizeofOperand := by
  unfold Grammar.sizeofOperand
  infer_instance

instance : Answers supply 16 Never supply.grammar.placementArguments := by
  unfold Grammar.placementArguments
  infer_instance

instance : Answers supply 16 Never supply.grammar.newPlacement := by
  unfold Grammar.newPlacement
  infer_instance

instance : Answers supply 16 Never supply.grammar.newType := by
  unfold Grammar.newType
  infer_instance

instance (target : TypeId) : Answers supply rank Never (supply.grammar.elementBounds target) := by
  unfold Grammar.elementBounds
  infer_instance

instance (target : TypeId) : Answers supply rank Never (supply.grammar.newSize target) := by
  unfold Grammar.newSize
  infer_instance

instance : Answers supply rank Never supply.grammar.newInitializer := by
  unfold Grammar.newInitializer
  infer_instance

instance (isGlobal : Bool) :
    Answers supply rank Always (supply.grammar.newExpression isGlobal) := by
  unfold Grammar.newExpression
  infer_instance

instance (isGlobal : Bool) :
    Answers supply rank Always (supply.grammar.deleteExpression isGlobal) := by
  unfold Grammar.deleteExpression
  infer_instance

theorem keywordUnary_at (word : Keyword) {state : State} (inside : state.atEnd = false) :
    AnswersAt supply 3 Never state (supply.grammar.keywordUnary word) := by
  unfold Grammar.keywordUnary
  split
  · exact .advance inside inferInstance
  · exact .advance inside inferInstance
  · exact .advance inside inferInstance
  · exact .anywhere
  · exact .anywhere
  · exact .anywhere

instance unaryRule_answers : Answers supply 3 Never supply.grammar.unaryRule := by
  unfold Grammar.unaryRule
  refine .byPlace fun state => ?_
  split
  · rename_i known
    exact keywordUnary_at _ (State.inside_of_kind known nofun)
  · rename_i known
    split
    · exact .advance (State.inside_of_kind known nofun) inferInstance
    · exact .anywhere
  · exact .anywhere

instance : Answers supply rank Always supply.grammar.castHead := by
  unfold Grammar.castHead
  infer_instance

instance : Answers supply 4 Never supply.grammar.castRule := by
  unfold Grammar.castRule
  infer_instance

theorem binaryOp?_width {state : State} {context : Context} {op : BinaryOp} {width : Nat}
    (found : state.binaryOp? context = some (op, width)) :
    state.atEnd = false ∧ 0 < width := by
  unfold State.binaryOp? at found
  split at found
  · rename_i mark known
    refine ⟨State.inside_of_kind known nofun, ?_⟩
    cases mark <;> simp only [Option.ite_none_left_eq_some, Option.some.injEq, Prod.mk.injEq,
      reduceCtorEq] at found <;> grind
  · cases found

instance binaryStep_answers (level : Nat) (left : Expr) :
    Answers supply rank GoesOn (supply.grammar.binaryStep level left) := by
  unfold Grammar.binaryStep
  refine .byPlace fun state => .byContext fun context => ?_
  split
  · exact .anywhere
  · rename_i op width found
    obtain ⟨inside, positive⟩ := binaryOp?_width found
    obtain ⟨more, rfl⟩ := Nat.exists_eq_add_one.mpr positive
    split
    · exact .anywhere
    · exact .advanceBy inside inferInstance

instance (level : Nat) : Answers supply 5 Never (supply.grammar.binaryRule level) := by
  unfold Grammar.binaryRule
  infer_instance

theorem assignOp?_width {state : State} {context : Context} {op : AssignOp} {width : Nat}
    (found : state.assignOp? context = some (op, width)) :
    state.atEnd = false ∧ 0 < width := by
  unfold State.assignOp? at found
  split at found
  · rename_i mark known
    refine ⟨State.inside_of_kind known nofun, ?_⟩
    split at found
    · cases found
      exact Nat.two_pos
    · obtain ⟨assigned, _, same⟩ := Option.map_eq_some_iff.mp found
      cases same
      exact Nat.one_pos
  · cases found

instance assignmentRule_answers : Answers supply 6 Never supply.grammar.assignmentRule := by
  unfold Grammar.assignmentRule
  refine @Answers.acceptWordBranch _ _ _ _ _ _ _ inferInstance ?_
  refine .andThen inferInstance fun target => ?_
  refine .byPlace fun state => .byContext fun context => ?_
  split
  · exact .anywhere
  · rename_i op width found
    obtain ⟨inside, positive⟩ := assignOp?_width found
    obtain ⟨more, rfl⟩ := Nat.exists_eq_add_one.mpr positive
    exact .advanceBy inside inferInstance

instance : Answers supply 7 Never supply.grammar.clauseRule := by
  unfold Grammar.clauseRule
  infer_instance

end CppSyntax.Grammar
