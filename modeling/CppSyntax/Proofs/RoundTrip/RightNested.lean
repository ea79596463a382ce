import CppSyntax.Proofs.RoundTrip.Expressions

/-!
Expressions that are nested at their right end: what is thrown, what is assigned, what a conditional
otherwise gives, and what a size is taken of. No level of nesting is opened for any of these, so that chains
of them are read at any length.
-/

namespace CppSyntax

open CppSyntax.Parser Grammar

/-- So many expressions, each of them what the size is taken of in the one before. The last one stands in
parentheses and holds no names. -/
inductive Tree.SizeChain : Nat → Expr → Prop where
  | last {value : Expr} (nameless : value.Nameless) (low : value.height ≤ 100) : SizeChain 1 value
  | sizing {count : Nat} {inner : Expr} (chain : SizeChain count inner) :
      SizeChain (count + 1) (.sizeof (.valueOperand inner))

/-- A chain of so many expressions, each of them at the right end of the one before. The last one and
the parts beside the chain hold no names, and they are not high. Sizes may be taken at the end of the chain
if they are allowed. -/
inductive Tree.RightNested (sized : Bool) : Nat → Expr → Prop where
  | last {value : Expr} (nameless : value.Nameless) (low : value.height ≤ 100) : RightNested sized 1 value
  | sizing {count : Nat} {inner : Expr} (allowed : sized = true) (chain : SizeChain count inner) :
      RightNested sized (count + 1) (.sizeof (.valueOperand inner))
  | throwing {count : Nat} {inner : Expr} (chain : RightNested sized count inner) :
      RightNested sized (count + 1) (.throwExpression (.present inner))
  | assigning {count : Nat} (op : AssignOp) {target value : Expr} (nameless : target.Nameless)
      (low : target.height ≤ 100) (chain : RightNested sized count value) :
      RightNested sized (count + 1) (.assignment op target value)
  | choosing {count : Nat} {test thenValue elseValue : Expr} (first : test.Nameless)
      (firstLow : test.height ≤ 100) (second : thenValue.Nameless)
      (secondLow : thenValue.height ≤ 100) (chain : RightNested sized count elseValue) :
      RightNested sized (count + 1) (.conditional test thenValue elseValue)

section

variable {level nest : Nat} {value inner : Expr} {text : List Char} {glyphs rest : List Glyph} {joint : Bool}

private theorem sizeof_unary (more : glyphs ≠ [])
    (reads : RuleReads (fun g => g.sizeofOperand) nest glyphs (· = .valueOperand inner) rest) :
    RuleReads (fun g => g.unary) nest (⟨.keyword .kwSizeof, joint⟩ :: glyphs)
      (· = .sizeof (.valueOperand inner)) rest := by
  intro g derived sure context room
  refine derived.symbol .unary fun deepest deepestDerived => .byPlace fun state known => ?_
  rw [State.kind_of_glyphs known]
  refine (Reads.advance more (by simp)).bind fun _ _ => ?_
  exact (reads deepest deepestDerived sure context room).andThen (.pure rfl)

/-- An operand that no parenthesis stands before is no type. -/
private theorem sizeofOperand_plain {first : Glyph} (noDots : first.kind ≠ .punctuator .ellipsis)
    (noParen : first.kind ≠ .punctuator .leftParen)
    (reads : RuleReads (fun g => g.unary) nest (first :: glyphs) (· = inner) rest) :
    RuleReads (fun g => g.sizeofOperand) nest (first :: glyphs) (· = .valueOperand inner) rest := by
  intro g derived sure context room
  refine (Reads.missing noDots).andThen (.byPlace fun state known => ?_)
  have other : state.isAt .leftParen = false := by
    simp [State.isAt_of_glyphs known, noParen]
  rw [other]
  exact (reads g derived sure context room).andThen (.pure rfl)

private theorem sizeofOperand_group (starts : StartsNoType glyphs)
    (reads : ReadsAs level nest value glyphs (⟨.punctuator .rightParen, joint⟩ :: rest)) {opened : Bool}
    (more : rest ≠ []) (loose : tightness rest < Precedence.postfixed) :
    RuleReads (fun g => g.sizeofOperand) (nest + 1) (⟨.punctuator .leftParen, opened⟩ :: glyphs)
      (· = .valueOperand value) rest := by
  have group : ReadsAs Precedence.primary (nest + 1) value (⟨.punctuator .leftParen, opened⟩ :: glyphs)
      rest := reads.group starts.noCast more
  have unary := unary_of_postfixed (group.operand (by decide))
    ((group.postfixed (by decide)).stop (stopsBefore_appending more loose))
  obtain ⟨first, tail, rfl, noType⟩ := starts
  intro g derived sure context room
  refine (Reads.missing (by simp)).andThen (.byPlace fun state known => ?_)
  have isAt : state.isAt .leftParen = true := by
    simp [State.isAt_of_glyphs known]
  rw [isAt]
  refine .attemptNone (parenthesizedType_refuses noType derived) ?_
  exact (unary g derived sure context room).andThen (.pure rfl)

/-- Wherever the text stands, it is read as what the size is taken of. -/
def IsSized (nest : Nat) (value : Expr) (text : List Char) : Prop :=
  ∀ rest behind, Follows rest behind → ∃ glyphs, glyphs ≠ [] ∧ Spelled (text ++ rest) glyphs ∧
    (∃ front, glyphs = front ++ behind ∧ Bracketed (· ≠ .punctuator .ellipsis) front) ∧
    (tightness behind < Precedence.postfixed →
      RuleReads (fun g => g.sizeofOperand) nest glyphs (· = .valueOperand value) behind)

theorem IsSized.group (written : IsWritten level nest value text) :
    IsSized (nest + 1) value ('(' :: (text ++ [')'])) := by
  intro rest behind follows
  obtain ⟨closed, close⟩ := follows.spelled.single .rightParen ')' rfl rfl
  obtain ⟨glyphs, spelled, reads, starts⟩ := written.reads _ _ (.closing close (by decide) rfl)
  obtain ⟨opened, whole⟩ := spelled.single .leftParen '(' rfl rfl
  have group : ReadsAs Precedence.primary (nest + 1) value (⟨.punctuator .leftParen, opened⟩ :: glyphs)
      behind := reads.group starts.noCast follows.more
  exact ⟨_, List.cons_ne_nil _ _, by simpa using whole, group.front,
    fun loose => sizeofOperand_group starts reads follows.more loose⟩

private theorem front_sizeof (front : ∃ front, glyphs = front ++ rest ∧
    Bracketed (· ≠ .punctuator .ellipsis) front) :
    ∃ front, (⟨.keyword .kwSizeof, joint⟩ :: glyphs) = front ++ rest ∧
      Bracketed (· ≠ .punctuator .ellipsis) front := by
  obtain ⟨front, rfl, bracketed⟩ := front
  exact ⟨⟨.keyword .kwSizeof, joint⟩ :: front, rfl, .token rfl rfl (by simp) (by simp) bracketed⟩

theorem IsSized.sizing (sized : IsSized nest inner text) :
    IsSized nest (.sizeof (.valueOperand inner)) ("sizeof ".toList ++ text) := by
  intro rest behind follows
  obtain ⟨glyphs, more, spelled, front, reads⟩ := sized rest behind follows
  refine ⟨⟨.keyword .kwSizeof, false⟩ :: glyphs, List.cons_ne_nil _ _,
    by simpa [Keyword.spelling] using spelled.wordThenSpace .kwSizeof, front_sizeof front, fun loose => ?_⟩
  exact sizeofOperand_plain (by simp) (by simp) (sizeof_unary more (reads loose))

theorem IsSized.written (sized : IsSized nest inner text) :
    IsWritten Precedence.unary nest (.sizeof (.valueOperand inner)) ("sizeof ".toList ++ text) := by
  refine ⟨⟨_, _, rfl, by decide⟩, fun rest behind follows => ?_⟩
  obtain ⟨glyphs, more, spelled, front, reads⟩ := sized rest behind follows
  refine ⟨⟨.keyword .kwSizeof, false⟩ :: glyphs,
    by simpa [Keyword.spelling] using spelled.wordThenSpace .kwSizeof, ?_, _, _, rfl, rfl⟩
  refine .ofCast follows.more (front_sizeof front) ⟨_, _, rfl, rfl⟩ (by simp) fun loose => ?_
  intro g derived sure context room
  refine derived.symbol .cast fun deeper deeperDerived => ?_
  refine .nested room.fits (.byPlace fun state known => ?_)
  have other : state.isAt .leftParen = false := by
    simp [State.isAt_of_glyphs known]
  rw [other]
  exact sizeof_unary more (reads loose) deeper deeperDerived sure _ room.deeper

private theorem returning_readsForm {sure : Prop} {spaced named opened closed braced returned ended last : Bool}
    (starts : StartsExpression glyphs) (reads : RuleReads (fun g => g.expression) nest glyphs (· = value)
      (⟨.punctuator .semicolon, ended⟩ :: ⟨.punctuator .rightBrace, last⟩ :: rest)) (more : rest ≠ []) :
    ReadsForm sure (nest + 2) (·.erase = .plainFunction
        (.block (.ofList [.statement .erased (.returnStatement (.present value.erase))]) []))
      (headGlyphs spaced named opened closed ++
        ⟨.punctuator .leftBrace, braced⟩ :: ⟨.keyword .kwReturn, returned⟩ :: glyphs) rest := by
  have row : ReadsStatements (nest + 1) [.statement .erased (.returnStatement (.present value.erase))]
      (⟨.keyword .kwReturn, returned⟩ :: glyphs) (⟨.punctuator .rightBrace, last⟩ :: rest) :=
    .cons rfl (.returning (List.cons_ne_nil _ _) starts reads) (.nil rfl)
  have block : ReadsErased (fun g => g.block) (nest + 1)
      (⟨.punctuator .leftBrace, braced⟩ :: ⟨.keyword .kwReturn, returned⟩ :: glyphs) _ rest :=
    row.block rfl rfl more
  exact ⟨⟨_, _, rfl, by simp, by simp⟩, fun g derived => plainFunction_reads rfl block g derived sure⟩

end

namespace Tree

theorem SizeChain.sized {count : Nat} {value : Expr} (chain : SizeChain count value) (layout : Layout) :
    ∃ text, IsSized 201 value text := by
  induction chain with
  | last nameless low =>
    have written := nameless.written.mono (Nat.mul_le_mul_left 2 low)
    exact ⟨_, .group (written layout)⟩
  | sizing _ ih =>
    obtain ⟨text, sized⟩ := ih
    exact ⟨_, sized.sizing⟩

namespace RightNested

variable {sized : Bool} {count : Nat} {value : Expr}

private theorem beside {other : Expr} (nameless : other.Nameless) (low : other.height ≤ 100) :
    Written 200 other :=
  nameless.written.mono (Nat.mul_le_mul_left 2 low)

/-- Each link is read at the level of the link before it, so that the length does not count. -/
theorem spelled (chain : RightNested sized count value) (layout : Layout) :
    ∃ level text, Precedence.assignment ≤ level ∧ IsWritten level 201 value text := by
  induction chain with
  | last nameless low =>
    obtain ⟨tight, low, written⟩ := (beside nameless low).operand Precedence.assignment (by decide) layout
    exact ⟨tight, _, low, written⟩
  | sizing _ chain =>
    obtain ⟨text, sized⟩ := chain.sized layout
    exact ⟨_, _, by decide, sized.written⟩
  | throwing _ ih =>
    obtain ⟨level, text, tight, written⟩ := ih
    exact ⟨_, _, Nat.le_refl _, written.throwing tight⟩
  | assigning op nameless low _ ih =>
    obtain ⟨level, text, tight, written⟩ := ih
    obtain ⟨_, leftTight, left⟩ := (beside nameless low).operand Precedence.logicalOr (by decide) layout
    exact ⟨_, _, Nat.le_refl _, left.assign op leftTight written tight⟩
  | choosing first firstLow second secondLow _ ih =>
    obtain ⟨level, text, tight, written⟩ := ih
    obtain ⟨_, firstTight, test⟩ := (beside first firstLow).operand Precedence.logicalOr (by decide) layout
    obtain ⟨_, _, middle⟩ := (beside second secondLow).operand Precedence.comma (by decide) layout
    exact ⟨_, _, by decide, test.choice firstTight middle written tight⟩

/-- The same for the text that is rendered, where no size is taken. -/
theorem written (chain : RightNested false count value) :
    Written 201 value ∧ WrittenAtEnd 201 value := by
  induction chain with
  | last nameless low =>
    exact ⟨(beside nameless low).mono (Nat.le_succ _), (beside nameless low).atEnd⟩
  | sizing allowed => cases allowed
  | throwing _ ih =>
    have written := ih.2.throwing
    exact ⟨written, written.atEndPlain (Nat.le_refl _)⟩
  | assigning op nameless low _ ih =>
    have written := ih.2.assigning op (beside nameless low)
    exact ⟨written, written.atEndPlain (Nat.le_refl _)⟩
  | choosing first firstLow second secondLow _ ih =>
    have written := ih.2.choosing (beside first firstLow) (beside second secondLow)
    exact ⟨written, written.atEndPlain (Nat.le_succ Precedence.assignment)⟩

/-- The chain is read from a text without parentheses between its links. -/
theorem accepted (chain : RightNested sized count value) :
    ∃ source unit, parse source = .ok unit ∧ unit.sameStructure (.returning value) = true := by
  obtain ⟨level, text, tight, written⟩ := chain.spelled ⟨.standard, [], 0, false⟩
  obtain ⟨ended, close⟩ := Spelled.nil.single .rightBrace '\x7d' rfl rfl
  obtain ⟨closed, behind⟩ := close.space.single .semicolon ';' rfl rfl
  obtain ⟨glyphs, spelled, reads, _⟩ := written.reads _ _ (.closing behind (by decide) rfl)
  obtain ⟨opened, body⟩ := (spelled.wordThenSpace .kwReturn).space.single .leftBrace '\x7b' rfl rfl
  obtain ⟨_, _, _, _, whole⟩ := spelled_head body.space
  let source := "void f() \x7b return " ++ String.ofList text ++ "; \x7d"
  have characters : source.toList = "void f()".toList ++ ' ' :: '\x7b' :: ' ' ::
      (Keyword.kwReturn.spelling.toList ++ ' ' :: (text ++ [';', ' ', '\x7d'])) := by
    simp [source, Keyword.spelling]
  rw [← characters] at whole
  have answers : (∃ unit, parse source = .ok unit ∧ _) ∨ (¬ True ∧ _) :=
    parse_of_spelled whole (by simp [headGlyphs]) fun g derived => translationUnit_reads
      (.cons (returning_readsForm reads.starts (reads.whole tightness_semicolon) (List.cons_ne_nil _ _)) .nil)
      rfl (fun _ => by decide) derived
  obtain ⟨unit, read, found, rfl, same⟩ := answers.resolve_right fun unsure => unsure.1 trivial
  refine ⟨source, _, read, sameStructure_iff.mpr ?_⟩
  rw [erase_unit_of_seen same]
  rfl

/-- **Right-nested chains have no limit.** A chain of any length is accepted, and if no size is taken in it,
a function that returns it survives. -/
theorem survives_unlimited (chain : RightNested sized count value) :
    (∃ source unit, parse source = .ok unit ∧ unit.sameStructure (.returning value) = true) ∧
      (sized = false → ∀ options, survives options (.returning value) = true) := by
  refine ⟨chain.accepted, ?_⟩
  rintro rfl options
  have bare : (Tree.statement .erased (.returnStatement (.present value))).IsBare := ⟨rfl, rfl, rfl⟩
  rcases chain.written.1.standsLast.returned.roundtrip bare options with ⟨again, read, same⟩ | ⟨deep, _⟩
  · have read' : parse (render options (.returning value)) = .ok again := read
    rw [survives, read']
    refine sameStructure_iff.mpr ?_
    rw [same]
    rfl
  · exact absurd deep (by decide)

end RightNested

/-- A throw of throws, the innermost of which throws nothing. -/
def throws : Nat → Expr
  | 0 => .throwExpression .absent
  | count + 1 => .throwExpression (.present (throws count))

theorem throws_rightNested {sized : Bool} (count : Nat) : RightNested sized (count + 1) (throws count) := by
  induction count with
  | zero => exact .last .throwingNothing (by decide)
  | succ count ih => exact .throwing ih

theorem RightNested.survives_unlimited_throws :
    (∃ source unit, parse source = .ok unit ∧ unit.sameStructure (.returning (throws 299)) = true) ∧
      ∀ options, survives options (.returning (throws 299)) = true := by
  have chain : RightNested false 300 (throws 299) := throws_rightNested 299
  obtain ⟨accepted, survives⟩ := survives_unlimited chain
  exact ⟨accepted, survives rfl⟩

/-- What surrounds an expression is limited, but no limit holds for chains. -/
theorem RightNested.count_exceeds_limit :
    ¬ ∀ (source : String) (unit : TranslationUnit) (count : Nat) (value : Expr),
      parse source = .ok unit → unit.sameStructure (.returning value) = true →
        RightNested true count value → count ≤ nestingLimit := by
  intro limited
  have chain : RightNested true 300 (throws 299) := throws_rightNested 299
  obtain ⟨source, again, read, same⟩ := chain.accepted
  exact absurd (limited source again 300 (throws 299) read same chain) (by decide)

end Tree

end CppSyntax
