import CppSyntax.Proofs.Expression.Follow

/-!
Tokens with all their brackets closed. Which tokens stand outside of brackets decides about much: a
fold is told from other parentheses by an ellipsis there.
-/

namespace CppSyntax

/-- Brackets are closed, and the tokens outside of them are all of a sort. -/
inductive Bracketed : (TokenKind → Prop) → List Glyph → Prop where
  | nil {outside : TokenKind → Prop} : Bracketed outside []
  | token {outside : TokenKind → Prop} {glyph : Glyph} {rest : List Glyph}
      (noOpening : glyph.kind.opensBracket = false) (noClosing : glyph.kind.closesBracket = false)
      (noEnd : glyph.kind ≠ .endOfFile) (allowed : outside glyph.kind)
      (later : Bracketed outside rest) : Bracketed outside (glyph :: rest)
  | group {outside : TokenKind → Prop} {opening closing : Glyph} {inner rest : List Glyph}
      (opens : opening.kind.opensBracket = true) (closes : closing.kind.closesBracket = true)
      (inside : Bracketed (fun _ => True) inner) (later : Bracketed outside rest) :
      Bracketed outside (opening :: (inner ++ closing :: rest))

namespace Bracketed

variable {outside : TokenKind → Prop} {front rest : List Glyph}

theorem append (first : Bracketed outside front) (second : Bracketed outside rest) :
    Bracketed outside (front ++ rest) := by
  induction first with
  | nil => exact second
  | token noOpening noClosing noEnd allowed _ ih =>
    exact .token noOpening noClosing noEnd allowed (ih second)
  | group opens closes inside _ _ ih =>
    rw [List.cons_append, List.append_assoc, List.cons_append]
    exact .group opens closes inside (ih second)

theorem mono {other : TokenKind → Prop} (bracketed : Bracketed outside front)
    (weaker : ∀ kind, outside kind → other kind) : Bracketed other front := by
  induction bracketed with
  | nil => exact .nil
  | token noOpening noClosing noEnd allowed _ ih =>
    exact .token noOpening noClosing noEnd (weaker _ allowed) (ih weaker)
  | group opens closes inside _ _ ih => exact .group opens closes inside (ih weaker)

end Bracketed

/-- The first token of an operand that is neither in parentheses nor behind an operator. -/
def TokenKind.isLeaf : TokenKind → Bool
  | .identifier _ | .integer _ => true
  | .keyword word => [.kwThis, .kwTrue, .kwFalse, .kwNullptr].contains word
  | _ => false

/-- Whether a fold lies ahead, as far as the tokens show. -/
def Glyph.foldsAhead (depth : Nat) (previous : Option TokenKind) (glyphs : List Glyph) : Bool :=
  CppSyntax.foldsAhead depth previous (glyphs.map Glyph.token)

theorem foldsAhead_of_glyphs {tokens : List Token} (depth : Nat) (previous : Option TokenKind) :
    foldsAhead depth previous tokens = Glyph.foldsAhead depth previous (tokens.map Token.glyph) := by
  induction tokens generalizing depth previous with
  | nil => rfl
  | cons token rest ih =>
    simp only [Glyph.foldsAhead, List.map_cons, foldsAhead, ih]
    rfl

namespace Glyph

variable {outside : TokenKind → Prop} {front rest : List Glyph} {glyph : Glyph}

private theorem foldsAhead_opening (opens : glyph.kind.opensBracket = true) (depth : Nat)
    (previous : Option TokenKind) :
    Glyph.foldsAhead depth previous (glyph :: rest) =
      Glyph.foldsAhead (depth + 1) (some glyph.kind) rest := by
  have noEnd : glyph.kind ≠ .endOfFile := by
    intro ends
    rw [ends] at opens
    cases opens
  simp [Glyph.foldsAhead, CppSyntax.foldsAhead, Glyph.token, opens, noEnd]

private theorem foldsAhead_closing (closes : glyph.kind.closesBracket = true) (depth : Nat)
    (previous : Option TokenKind) :
    Glyph.foldsAhead (depth + 1) previous (glyph :: rest) =
      Glyph.foldsAhead depth (some glyph.kind) rest := by
  have noEnd : glyph.kind ≠ .endOfFile := by
    intro ends
    rw [ends] at closes
    cases closes
  have noOpening : glyph.kind.opensBracket = false := by
    cases known : glyph.kind with
    | punctuator mark => cases mark <;> first | rfl | (rw [known] at closes; cases closes)
    | _ => rfl
  simp [Glyph.foldsAhead, CppSyntax.foldsAhead, Glyph.token, closes, noOpening, noEnd]

private theorem foldsAhead_plain (noOpening : glyph.kind.opensBracket = false)
    (noClosing : glyph.kind.closesBracket = false) (noEnd : glyph.kind ≠ .endOfFile) {depth : Nat}
    (quiet : 0 < depth ∨ glyph.kind ≠ .punctuator .ellipsis) (previous : Option TokenKind) :
    Glyph.foldsAhead depth previous (glyph :: rest) =
      Glyph.foldsAhead depth (some glyph.kind) rest := by
  have noParen : glyph.kind ≠ .punctuator .rightParen := by
    intro paren
    rw [paren] at noClosing
    cases noClosing
  have noEllipsis : (depth == 0 && glyph.kind == .punctuator .ellipsis) = false := by
    rcases quiet with deep | other
    · simp [Nat.ne_of_gt deep]
    · simp [other]
  simp [Glyph.foldsAhead, CppSyntax.foldsAhead, Glyph.token, noOpening, noClosing, noEnd, noParen,
    noEllipsis]

/-- Closed brackets are passed over, and so is what stands outside of them without an ellipsis. -/
theorem foldsAhead_append (bracketed : Bracketed outside front) (rest : List Glyph) {depth : Nat}
    (passes : 0 < depth ∨ ∀ kind, outside kind → kind ≠ .punctuator .ellipsis)
    (previous : Option TokenKind) :
    ∃ last, Glyph.foldsAhead depth previous (front ++ rest) = Glyph.foldsAhead depth last rest := by
  induction bracketed generalizing depth previous rest with
  | nil => exact ⟨previous, rfl⟩
  | token noOpening noClosing noEnd allowed _ ih =>
    obtain ⟨last, same⟩ := ih rest passes _
    exact ⟨last, (foldsAhead_plain noOpening noClosing noEnd
      (passes.imp_right fun plain => plain _ allowed) previous).trans same⟩
  | @group outside opening closing inner tail opens closes _ _ ihInside ih =>
    have deep : 0 < depth + 1 := Nat.succ_pos depth
    obtain ⟨middle, through⟩ := ihInside (closing :: (tail ++ rest)) (.inl deep) (some opening.kind)
    obtain ⟨last, same⟩ := ih rest passes (some closing.kind)
    refine ⟨last, ?_⟩
    rw [List.cons_append, List.append_assoc, List.cons_append, foldsAhead_opening opens, through,
      foldsAhead_closing closes, same]

/-- Parentheses without an ellipsis right inside hold no fold. -/
theorem foldsAhead_group (bracketed : Bracketed (· ≠ .punctuator .ellipsis) front) {closing : Glyph}
    (closes : closing.kind = .punctuator .rightParen) :
    Glyph.foldsAhead 0 none (front ++ closing :: rest) = false := by
  obtain ⟨last, same⟩ :=
    foldsAhead_append bracketed (closing :: rest) (.inr fun _ other => other) none
  rw [same]
  simp [Glyph.foldsAhead, CppSyntax.foldsAhead, Glyph.token, closes, TokenKind.opensBracket]

/-- An ellipsis behind an operator makes a fold. -/
theorem foldsAhead_fold (bracketed : Bracketed (· ≠ .punctuator .ellipsis) front) {op : BinaryOp}
    {joint : Bool} {ellipsis : Glyph} (kind : ellipsis.kind = .punctuator .ellipsis) :
    Glyph.foldsAhead 0 none (front ++ (op.glyphs joint ++ ellipsis :: rest)) = true := by
  obtain ⟨last, same⟩ := foldsAhead_append bracketed (op.glyphs joint ++ ellipsis :: rest)
    (.inr fun _ other => other) none
  rw [same]
  cases op <;> simp [Glyph.foldsAhead, CppSyntax.foldsAhead, Glyph.token, BinaryOp.glyphs,
    BinaryOp.mark, kind, TokenKind.opensBracket, TokenKind.closesBracket]

end Glyph

end CppSyntax
