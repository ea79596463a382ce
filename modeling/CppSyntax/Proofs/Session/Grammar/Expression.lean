import CppSyntax.Proofs.Session.Grammar.Operand

set_option synthInstance.maxSize 4096

/-!
The routines for expressions above operands mirror their parsers.
-/

namespace CppSyntax.Grammar

open CppSyntax.Parser

variable {L : Likeness} {g : Grammar Routine} {h : Grammar Parser} [paired : Paired L g h]

theorem assignOp?_seen {first second : State} (sees : L.Sees first second) (context : Context) :
    first.assignOp? context = second.assignOp? context := by
  unfold State.assignOp?
  rw [sees.kind]
  split
  · rename_i mark here
    by_cases greater : mark = .greater
    · subst greater
      have assigned := sees.joined here (.inr rfl)
      simp only [Bool.and_assoc, assigned]
    · simp [greater]
  · rfl

instance {kind other : TokenKind} [equal : Equal kind other] (certain : Bool) :
    Equal (kind.followsCast certain) (other.followsCast certain) :=
  ⟨by rw [equal.eq]⟩

instance {kind other : TokenKind} [equal : Equal kind other] :
    Equal (throwsNothing kind) (throwsNothing other) :=
  ⟨by rw [equal.eq]⟩

section

include paired

instance : Mirrors L false g.sizeofOperand h.sizeofOperand := by
  unfold Grammar.sizeofOperand
  infer_instance

instance placementArguments_mirrors : Mirrors L false g.placementArguments h.placementArguments := by
  unfold Grammar.placementArguments
  refine .andThenSame fun _ => .andThen fun values => .byPlace fun sights => ?_
  rw [sights.sees.kind]
  infer_instance

instance : Mirrors L false g.newPlacement h.newPlacement := by
  unfold Grammar.newPlacement
  infer_instance

instance : Mirrors L false g.newType h.newType := by
  unfold Grammar.newType
  infer_instance

instance (targets : Likes L.detail TypeId) :
    Mirrors L false (g.elementBounds targets.fst) (h.elementBounds targets.snd) := by
  unfold Grammar.elementBounds
  infer_instance

instance (targets : Likes L.detail TypeId) :
    Mirrors L false (g.newSize targets.fst) (h.newSize targets.snd) := by
  unfold Grammar.newSize
  infer_instance

instance : Mirrors L false g.newInitializer h.newInitializer := by
  unfold Grammar.newInitializer
  infer_instance

instance (isGlobal : Bool) :
    Mirrors L false (g.newExpression isGlobal) (h.newExpression isGlobal) := by
  unfold Grammar.newExpression
  infer_instance

instance deleteExpression_mirrors (isGlobal : Bool) :
    Mirrors L false (g.deleteExpression isGlobal) (h.deleteExpression isGlobal) := by
  unfold Grammar.deleteExpression
  refine .andThenSame fun _ => .byPlace fun sights => ?_
  have brackets : (sights.fst.isAt .leftBracket && sights.fst.isAhead 1 .rightBracket) =
      (sights.snd.isAt .leftBracket && sights.snd.isAhead 1 .rightBracket) := Equal.eq
  rw [brackets]
  infer_instance

instance (word : Keyword) : Mirrors L false (g.keywordUnary word) (h.keywordUnary word) := by
  unfold Grammar.keywordUnary
  split <;> infer_instance

instance unaryRule_mirrors : Mirrors L false g.unaryRule h.unaryRule := by
  unfold Grammar.unaryRule
  refine .byPlace fun sights => ?_
  rw [sights.sees.kind]
  split
  · infer_instance
  · split <;> infer_instance
  · infer_instance

instance : Mirrors L false g.castHead h.castHead := by
  unfold Grammar.castHead
  infer_instance

instance : Mirrors L false g.castRule h.castRule := by
  unfold Grammar.castRule
  infer_instance

instance binaryStep_mirrors (level : Nat) (lefts : Likes L.detail Expr) :
    Mirrors L false (g.binaryStep level lefts.fst) (h.binaryStep level lefts.snd) := by
  unfold Grammar.binaryStep
  refine .byPlace fun sights => .byContext fun context => ?_
  rw [binaryOp?_seen sights.sees]
  split <;> infer_instance

instance (level : Nat) : Mirrors L false (g.binaryRule level) (h.binaryRule level) := by
  unfold Grammar.binaryRule
  infer_instance

instance assignmentRule_mirrors : Mirrors L false g.assignmentRule h.assignmentRule := by
  unfold Grammar.assignmentRule
  refine .andThenSame fun throws => .choose inferInstance (.andThen fun targets => ?_)
  refine .byPlace fun sights => .byContext fun context => ?_
  rw [assignOp?_seen sights.sees]
  split <;> infer_instance

instance : Mirrors L false g.clauseRule h.clauseRule := by
  unfold Grammar.clauseRule
  infer_instance

end

end CppSyntax.Grammar
