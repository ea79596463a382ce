import CppSyntax.Proofs.Lexing.Lines
import CppSyntax.Proofs.Statement.Forms
import CppSyntax.Proofs.Statement.Writing

/-!
The texts of statements inside others: the bodies of loops and the branches of conditional
statements, which stand in braces, on a line of their own, or behind an `else`.
-/

namespace CppSyntax

open Doc Render

/-- Blank text that keeps what follows apart from a word before it. -/
structure IsGap (gap : String) : Prop where
  opens : OpensApart gap.toList
  spelled : ∀ rest glyphs, Spelled rest glyphs → Spelled (gap.toList ++ rest) glyphs

namespace IsGap

theorem beforeBrace (layout : Layout) : IsGap (Doc.beforeBrace layout) :=
  ⟨.beforeBrace layout, fun _ _ later => later.beforeBrace layout⟩

theorem line (layout : Layout) : IsGap ("\n" ++ Doc.margin layout) := by
  refine ⟨⟨'\n', (Doc.margin layout).toList, by simp, .inr rfl⟩, fun rest glyphs later => ?_⟩
  simpa using (later.margin layout).lineBreak

theorem space : IsGap " " :=
  ⟨⟨' ', [], by simp, .inl rfl⟩, fun _ _ later => by simpa using later.space⟩

end IsGap

section

variable {nest : Nat} {body expected : Statement} {layout : Layout}

/-- A body without comments stands behind a gap. -/
theorem subStatement_text {place : Placement} {form : Tree .statementForm}
    (bare : (Tree.statement place form).IsBare) (layout : Layout) :
    ∃ gap inner, IsGap gap ∧
      subStatement ⟨.statement place form, form.drawing⟩ layout = gap ++ form.drawing inner := by
  obtain ⟨leading, trailing, _⟩ := bare
  obtain ⟨location, comments, comment, blank⟩ := place
  cases leading
  cases trailing
  cases compound : isCompound form with
  | true =>
    refine ⟨Doc.beforeBrace layout, layout, .beforeBrace layout, ?_⟩
    simp [subStatement, opensBrace, compound, Doc.trailing]
  | false =>
    let inner := { layout with depth := layout.depth + 1 }
    refine ⟨"\n" ++ Doc.margin inner, inner, .line inner, ?_⟩
    simp [subStatement, opensBrace, compound, Doc.trailing, commentLines, concat, inner,
      String.append_assoc]

/-- The text behind a gap is read like the text alone, and it stands apart. -/
theorem IsStated.behindGap {openIf : Bool} {gap text : String} (isGap : IsGap gap)
    (stated : IsStated nest openIf expected text.toList) :
    IsStated nest openIf expected (gap ++ text).toList ∧ OpensApart (gap ++ text).toList := by
  refine ⟨fun rest behind ensues => ?_, by simpa using isGap.opens.append text.toList⟩
  obtain ⟨first, glyphs, spelled, starts, reads⟩ := stated rest behind ensues
  exact ⟨first, glyphs, by simpa using isGap.spelled _ _ spelled, starts, reads⟩

/-- A body of its own is read like the statement that it is. -/
theorem Tree.StatedAs.sub (stated : body.StatedAs nest expected) (layout : Layout) :
    IsStated nest body.endsInOpenIf expected (subStatement ⟨body, body.drawing⟩ layout).toList ∧
      OpensApart (subStatement ⟨body, body.drawing⟩ layout).toList := by
  obtain ⟨place, form, shape, rfl, rfl, bare, written⟩ := stated
  obtain ⟨gap, inner, isGap, text⟩ := subStatement_text bare layout
  have behind := (written inner).behindGap isGap
  rw [← text] at behind
  exact behind

/-- The branch behind an `else` is read like the statement that it is. -/
theorem Tree.StatedAs.other (stated : body.StatedAs nest expected) (layout : Layout) :
    IsStated nest body.endsInOpenIf expected (elsePart ⟨body, body.drawing⟩ layout).toList ∧
      OpensApart (elsePart ⟨body, body.drawing⟩ layout).toList := by
  have asSub := stated.sub layout
  obtain ⟨place, form, shape, rfl, rfl, ⟨leading, trailing, _⟩, written⟩ := stated
  obtain ⟨location, comments, comment, blank⟩ := place
  cases leading
  cases trailing
  cases another : isIf form with
  | true =>
    have text : elsePart ⟨.statement ⟨location, [], none, blank⟩ form, form.drawing⟩ layout =
        " " ++ form.drawing layout := by
      simp [elsePart, another, Doc.trailing]
    have behind := (written layout).behindGap .space
    rw [← text] at behind
    exact behind
  | false =>
    have text : elsePart ⟨.statement ⟨location, [], none, blank⟩ form, form.drawing⟩ layout =
        subStatement ⟨.statement ⟨location, [], none, blank⟩ form, form.drawing⟩ layout := by
      simp [elsePart, another]
    show IsStated _ _ _ (elsePart ⟨_, form.drawing⟩ layout).toList ∧
      OpensApart (elsePart ⟨_, form.drawing⟩ layout).toList
    rw [text]
    exact asSub

/-- A block may stand wherever a statement does. -/
theorem IsBlock.compound {inner : Tree .block} {text : List Char} {openIf : Bool}
    (block : IsBlock nest inner text) :
    IsStated (nest + 1) openIf (.statement .erased (.compound inner)) text := by
  intro rest behind ensues
  obtain ⟨joint, glyphs, spelled, reads⟩ := block rest behind ensues.spelled ensues.more
  exact ⟨_, glyphs, spelled, rfl, .compound rfl reads⟩

/-- A statement in braces of its own. -/
def Tree.inBraces (body : Statement) : Statement :=
  .statement .erased (.compound (.block (.cons body .nil) []))

theorem Tree.StatedAs.inBraces (stated : body.StatedAs nest expected) (layout : Layout) :
    IsStated (nest + 1) false expected.inBraces (thenPart true ⟨body, body.drawing⟩ layout).toList ∧
      OpensApart (thenPart true ⟨body, body.drawing⟩ layout).toList := by
  have row : ∀ one ∈ (Trees.cons body .nil).toList, one.StatedAs nest ((fun _ => expected) one) := by
    intro one member
    rw [Trees.toList, Trees.toList, List.mem_singleton] at member
    exact member ▸ stated
  have block : IsStated (nest + 1) false expected.inBraces
      (Render.block (Trees.cons body .nil).drawn [] layout).toList := (block_written row layout).compound
  have text : thenPart true ⟨body, body.drawing⟩ layout =
      Doc.beforeBrace layout ++ Render.block (Trees.cons body .nil).drawn [] layout := by
    have block : Render.block (Trees.cons body .nil).drawn [] layout = "\x7b\n" ++
        ("" ++ statementLine ⟨body, body.drawing⟩ { layout with depth := layout.depth + 1 } ++ "" ++
          "") ++ Doc.margin layout ++ "\x7d" := rfl
    rw [block, String.empty_append, String.append_empty, String.append_empty]
    rfl
  rw [text]
  exact block.behindGap (.beforeBrace layout)

end

end CppSyntax
