import CppSyntax.Proofs.WellFormed.Promise

/-!
Names. Another segment follows only one that is a plain identifier, so that all segments but the last
are plain.
-/

set_option synthInstance.maxSize 4096

namespace CppSyntax.Grammar

open CppSyntax.Parser

variable {g : Grammar Parser} [g.Sound]

instance : Yields g.memberPointerScope := by
  unfold Grammar.memberPointerScope
  infer_instance

instance : Yields g.pointerOperators := by
  unfold Grammar.pointerOperators
  infer_instance

instance : Yields g.conversionTarget := by
  unfold Grammar.conversionTarget
  infer_instance

instance : Yields g.typeArgument := by
  unfold Grammar.typeArgument
  infer_instance

instance : Yields g.templateArgument := by
  unfold Grammar.templateArgument
  infer_instance

instance : Yields g.templateArguments := by
  unfold Grammar.templateArguments
  infer_instance

instance (inExpression : Bool) : Yields (g.fittingTemplateArguments inExpression) := by
  unfold Grammar.fittingTemplateArguments
  infer_instance

instance (inExpression marked : Bool) : Yields (g.plainSegment inExpression marked) := by
  unfold Grammar.plainSegment
  infer_instance

instance (inExpression : Bool) : Yields (g.segment inExpression) := by
  unfold Grammar.segment
  infer_instance

omit [g.Sound] in
theorem plainSegment_plain (inExpression marked : Bool) :
    (g.plainSegment inExpression marked).Ensures (fun _ => True) fun segment _ =>
      segment.plainIdent?.isSome := by
  unfold Grammar.plainSegment
  refine .bind .anything fun ident => .here fun place _ => ?_
  refine .branch (fun _ => .bind .anything fun arguments => ?_) fun _ => .pure fun _ _ => rfl
  cases arguments <;> exact .pure fun _ _ => rfl

omit [g.Sound] in
theorem segment_plain (inExpression : Bool) :
    (g.segment inExpression).Ensures (fun _ => True) fun found _ =>
      found.2 = true → found.1.plainIdent?.isSome := by
  unfold Grammar.segment
  refine .bind .anything fun marked => .bind .anything fun tilde => ?_
  refine .branch (fun _ => .bind .anything fun ident => .pure fun _ _ => nofun) fun _ => ?_
  refine .bind .anything fun isOperator => .branch (fun _ => .bind .anything fun symbol => ?_) ?_
  · cases symbol with
    | none => exact .bind .anything fun target => .pure fun _ _ => nofun
    | some symbol => exact .pure fun _ _ => nofun
  · refine fun _ => .bind (plainSegment_plain _ _) fun segment => .pure ?_
    exact fun _ isPlain _ => isPlain

/-- The segments of a name that goes on. -/
def Extensible (segments : List (Tree .segment)) : Prop :=
  Fine segments ∧ ∀ segment ∈ segments, segment.plainIdent?.isSome

/-- The segments of a whole name. -/
def Complete (segments : List (Tree .segment)) : Prop :=
  Fine segments ∧ segments ≠ [] ∧ ∀ segment ∈ segments.dropLast, segment.plainIdent?.isSome

theorem nameStep_keeps (inExpression : Bool) (segments : List (Tree .segment)) :
    (g.nameStep inExpression segments).Ensures (fun _ => Extensible segments)
      (Progress (fun again _ => Extensible again) fun segments _ => Complete segments) := by
  unfold Grammar.nameStep
  refine .assume fun ⟨fine, plain⟩ => ?_
  refine .bind (.and (Yields.from_places _) (segment_plain _)) fun (segment, more) => ?_
  refine .assume fun ⟨fineBoth, plainLast⟩ => .here fun place _ => ?_
  have fineLast : Fine segment := (Fine.pair_iff.mp fineBoth).1
  refine .branch (fun goesOn => .bind .anything fun _ => .pure fun _ _ => ⟨inferInstance, ?_⟩)
    fun _ => .pure fun _ _ => ⟨inferInstance, by simp, by simpa using plain⟩
  simp only [Bool.and_eq_true] at goesOn
  simpa [or_imp, forall_and] using ⟨plain, plainLast goesOn.1.1⟩

instance nameRule_yields (inExpression : Bool) : Yields (g.nameRule inExpression) := by
  unfold Grammar.nameRule
  refine .andThen inferInstance fun isGlobal => ⟨?_⟩
  have segments : (g.loop (g.nameStep inExpression) []).Ensures (fun _ => True) fun segments _ =>
      Complete segments :=
    .mono (.iterate _ (nameStep_keeps inExpression) g.fuel [])
      (fun _ _ => ⟨inferInstance, nofun⟩) fun _ _ => id
  refine .bind segments fun segments => .pure fun _ ⟨fine, nonempty, plain⟩ => ?_
  have fits : Holds (Tree.qualifiedName isGlobal.value (.ofList segments)).Fits :=
    ⟨by simpa only [Tree.Fits, Trees.toList_ofList] using ⟨nonempty, plain⟩⟩
  infer_instance

end CppSyntax.Grammar
