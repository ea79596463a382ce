import CppSyntax.Proofs.Session.Grammar.Declarator

set_option synthInstance.maxSize 4096

/-!
The routines for operands mirror their parsers.
-/

namespace CppSyntax.Grammar

open CppSyntax.Parser

variable {L : Likeness} {moves : Bool} {g : Grammar Routine} {h : Grammar Parser}
  [paired : Paired L g h]

theorem binaryOp?_seen {first second : State} (sees : L.Sees first second) (context : Context) :
    first.binaryOp? context = second.binaryOp? context := by
  unfold State.binaryOp?
  rw [sees.kind]
  by_cases here : second.kind = .punctuator .greater
  · have shift := sees.joined here (.inl rfl)
    have assigned := sees.joined here (.inr rfl)
    rw [here]
    dsimp only
    rw [shift, assigned]
  · cases kind : second.kind with
    | punctuator mark => cases mark <;> first | rfl | exact absurd kind here
    | _ => rfl

theorem foldOp?_seen {first second : State} (sees : L.Sees first second) (context : Context) :
    first.foldOp? context = second.foldOp? context := by
  rw [State.foldOp?, State.foldOp?, State.isAt, sees.kind, binaryOp?_seen sees, State.isAt]

/-- The scan for a fold looks at nothing but kinds. -/
theorem foldsAhead_of_kinds (tokens others : List Token)
    (kinds : tokens.map Token.kind = others.map Token.kind) :
    ∀ depth previous, foldsAhead depth previous tokens = foldsAhead depth previous others := by
  induction tokens generalizing others with
  | nil =>
    obtain rfl : others = [] := by simpa using kinds.symm
    exact fun _ _ => rfl
  | cons token rest ih =>
    cases others with
    | nil => cases kinds
    | cons other rest' =>
      obtain ⟨kind, kinds⟩ := List.cons.inj kinds
      intro depth previous
      simp only [foldsAhead, kind, ih rest' kinds]

instance foldsAhead_equal (sights : Sights L) (depth : Nat) (previous : Option TokenKind) :
    Equal (foldsAhead depth previous (sights.fst.current :: sights.fst.following))
      (foldsAhead depth previous (sights.snd.current :: sights.snd.following)) :=
  ⟨foldsAhead_of_kinds (_ :: _) (_ :: _)
    (List.cons_eq_cons.mpr ⟨sights.sees.kind, sights.sees.following⟩) _ _⟩

instance foldOperator_mirrors : Mirrors L false (foldOperator : Routine BinaryOp) foldOperator := by
  unfold Grammar.foldOperator
  refine .byPlace fun sights => .byContext fun context => ?_
  rw [foldOp?_seen sights.sees]
  split <;> infer_instance

section

include paired

instance block_mirrors : Mirrors L true g.block h.block := by
  unfold Grammar.block
  have items : Mirrors L false
      (angleCloses false (g.itemsUntil .rightBrace (some <$> g.statement)))
      (angleCloses false (h.itemsUntil .rightBrace (some <$> h.statement))) := inferInstance
  refine ⟨(braced_mirrors "block" items).bind fun first second body => .pure ?_⟩
  have statements : Same L.detail first.1 second.1 := body.1
  exact .block inferInstance body.2

instance : Mirrors L false g.block h.block := Mirrors.anywhere inferInstance

instance foldRight_mirrors (op : BinaryOp) : Mirrors L false (g.foldRight op) (h.foldRight op) := by
  unfold Grammar.foldRight
  refine .byPlace fun sights => .choose inferInstance (.byContext fun context => ?_)
  rw [foldOp?_seen sights.sees]
  split <;> infer_instance

instance : Mirrors L false g.fold h.fold := by
  unfold Grammar.fold
  infer_instance

instance : Mirrors L false g.parenthesized h.parenthesized := by
  unfold Grammar.parenthesized
  infer_instance

instance : Mirrors L false g.capturedName h.capturedName := by
  unfold Grammar.capturedName
  infer_instance

private theorem capturedName_then (node : String → Part .expression → Bool → Tree .capture)
    (kept : ∀ ident pack (values : Likes L.detail (Part .expression)),
      Same L.detail (node ident values.fst pack) (node ident values.snd pack)) :
    Mirrors L false
      (g.capturedName >>= fun (ident, init, pack) => pure (node ident (.ofOption init) pack))
      (h.capturedName >>= fun (ident, init, pack) => pure (node ident (.ofOption init) pack)) := by
  refine .andThen fun ⟨(ident, init, pack), (ident', init', pack'), same⟩ => ?_
  obtain rfl : ident = ident' := congrArg Prod.fst same.eq
  obtain rfl : pack = pack' := congrArg (·.2.2) same.eq
  have values : Same L.detail init init' := ⟨congrArg (·.2.1) same.eq⟩
  have node := kept ident pack ⟨.ofOption init, .ofOption init', inferInstance⟩
  infer_instance

instance capture_mirrors : Mirrors L false g.capture h.capture := by
  have byReference := capturedName_then (L := L) (g := g) (h := h) .captureReference
    fun _ _ _ => inferInstance
  have byCopy := capturedName_then (L := L) (g := g) (h := h) .captureCopy fun _ _ _ => inferInstance
  unfold Grammar.capture
  refine .byPlace fun sights => .andThenSame fun copiesAll => .choose inferInstance ?_
  refine .andThenSame fun refers => .choose ?_ inferInstance
  rw [sights.sees.ahead]
  split <;> infer_instance

instance : Mirrors L false g.captures h.captures := by
  unfold Grammar.captures
  infer_instance

instance : Mirrors L false g.lambdaWords h.lambdaWords := by
  unfold Grammar.lambdaWords
  infer_instance

instance : Mirrors L false g.lambda h.lambda := by
  unfold Grammar.lambda
  infer_instance

instance (word : Keyword) (kind : CastKind) :
    Mirrors L false (g.keywordCast word kind) (h.keywordCast word kind) := by
  unfold Grammar.keywordCast
  infer_instance

instance functionalCast_mirrors : Mirrors L false g.functionalCast h.functionalCast := by
  unfold Grammar.functionalCast
  refine .andThen fun types => .byPlace fun _ => .choose inferInstance ?_
  refine .andThenSame fun _ => .byPlace fun sights => .andThen fun operands => ?_
  rcases operands.same.lists with ⟨left, right⟩ | ⟨first, others, left, right⟩
  · rw [left, right]
    infer_instance
  · rw [left, right]
    rcases others.same.lists with ⟨left, right⟩ | ⟨second, rest, left, right⟩
    · rw [left, right]
      infer_instance
    · rw [left, right]
      dsimp only [List.length_cons]
      rw [rest.same.length]
      infer_instance

instance : Mirrors L false g.typeidOperand h.typeidOperand := by
  unfold Grammar.typeidOperand
  infer_instance

instance stringRun_mirrors (first : String) :
    Mirrors L false (g.stringRun first) (h.stringRun first) := by
  unfold Grammar.stringRun
  refine .loopOf (.refl first) fun text _ same => ?_
  obtain rfl := same.to_eq
  refine .byPlace fun sights => ?_
  rw [sights.sees.kind]
  split <;> infer_instance

omit paired in
instance (kind : LiteralKind) (text : String) :
    Mirrors L false (literalOf kind text : Routine Expr) (literalOf kind text) := by
  unfold Grammar.literalOf
  infer_instance

instance : Mirrors L false g.namedExpression h.namedExpression := by
  unfold Grammar.namedExpression
  infer_instance

instance keywordExpression_mirrors (word : Keyword) :
    Mirrors L false (g.keywordExpression word) (h.keywordExpression word) := by
  unfold Grammar.keywordExpression
  split <;> try infer_instance
  cases word.castKind? <;> infer_instance

instance primary_mirrors : Mirrors L false g.primary h.primary := by
  unfold Grammar.primary
  refine .byPlace fun sights => ?_
  rw [sights.sees.kind]
  split <;> infer_instance

instance postfixStep_mirrors (objects : Likes L.detail Expr) :
    Mirrors L false (g.postfixStep objects.fst) (h.postfixStep objects.snd) := by
  unfold Grammar.postfixStep
  refine .byPlace fun sights => ?_
  rw [sights.sees.kind]
  split <;> infer_instance

instance : Mirrors L false g.postfixed h.postfixed := by
  unfold Grammar.postfixed
  infer_instance

end

end CppSyntax.Grammar
