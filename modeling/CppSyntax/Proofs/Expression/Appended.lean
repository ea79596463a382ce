import CppSyntax.Proofs.Expression.Combination

/-!
Calls, subscripts and folds: forms that hold other expressions between brackets.
-/

namespace CppSyntax

open CppSyntax.Parser Grammar

/-- The items of a list in brackets with commas between them, up to the closing bracket. -/
inductive ReadsItems (nest : Nat) (closing : List Glyph) : List Expr → List Glyph → Prop where
  | nil : ReadsItems nest closing [] closing
  | last {level : Nat} {value : Expr} {glyphs : List Glyph}
      (reads : ReadsAs level nest value glyphs closing) (tight : Precedence.assignment ≤ level) :
      ReadsItems nest closing [value] glyphs
  | more {level : Nat} {value : Expr} {values : List Expr} {joint : Bool}
      {glyphs behind : List Glyph}
      (reads : ReadsAs level nest value glyphs (⟨.punctuator .comma, joint⟩ :: behind))
      (tight : Precedence.assignment ≤ level) (later : ReadsItems nest closing values behind) :
      ReadsItems nest closing (value :: values) glyphs

namespace ReadsItems

variable {nest : Nat} {values : List Expr} {glyphs rest : List Glyph} {closing : Glyph}
  {close : Punctuator}

theorem front {closing : List Glyph} (reads : ReadsItems nest closing values glyphs) :
    ∃ front, glyphs = front ++ closing ∧ Bracketed (fun _ => True) front := by
  induction reads with
  | nil => exact ⟨[], rfl, .nil⟩
  | last reads =>
    obtain ⟨front, rfl, bracketed⟩ := reads.front
    exact ⟨front, rfl, bracketed.mono fun _ _ => trivial⟩
  | @more _ _ _ joint _ _ reads _ _ ih =>
    obtain ⟨front, rfl, bracketed⟩ := reads.front
    obtain ⟨back, rfl, backBracketed⟩ := ih
    refine ⟨front ++ ⟨.punctuator .comma, joint⟩ :: back, by simp, ?_⟩
    exact (bracketed.mono fun _ _ => trivial).append (.token rfl rfl (by simp) trivial backBracketed)

theorem ne_nil (reads : ReadsItems nest (closing :: rest) values glyphs) : glyphs ≠ [] := by
  cases reads with
  | nil => exact List.cons_ne_nil _ _
  | last reads => exact reads.glyphs_ne_nil
  | more reads => exact reads.glyphs_ne_nil

/-- The first item is not the closing mark. -/
private theorem notClosed {level : Nat} {value : Expr} {behind : List Glyph}
    (reads : ReadsAs level nest value glyphs behind)
    (other : (TokenKind.punctuator close).startsExpression = false) {state : State}
    (known : state.glyphs = glyphs) : state.isAt close = false := by
  obtain ⟨first, tail, rfl, _⟩ := reads.starts
  have apart : first.kind ≠ .punctuator close := reads.starts.ne other
  simpa [State.isAt_of_glyphs known] using apart

section

variable {level : Nat} {value : Expr} {g : Grammar Parser} {sure : Prop} {context : Context}
  (closes : closing.kind = .punctuator close) (ends : close.endsOperand = true)

include closes in
private theorem step_closed (found : List Expr) :
    (g.listStep close found).Reads context sure (closing :: rest) (· = .inr found)
      (closing :: rest) := by
  refine .byPlace fun state known => ?_
  rw [State.isAt_of_glyphs known, closes, beq_self_eq_true]
  exact .pure rfl

include closes ends in
private theorem step_last (noEllipsis : close ≠ .ellipsis)
    (reads : ReadsAs level nest value glyphs (closing :: rest))
    (tight : Precedence.assignment ≤ level) (derived : g.IsDerived)
    (room : Room sure context (nest + 1)) (found : List Expr) :
    (g.listStep close found).Reads context sure glyphs (· = .inr (found ++ [value]))
      (closing :: rest) := by
  refine .byPlace fun state known => ?_
  have startsNothing : (TokenKind.punctuator close).startsExpression = false := by
    cases close <;> first | rfl | cases ends
  rw [notClosed reads startsNothing known]
  have loose : tightness (closing :: rest) < Precedence.assignment := by
    rw [tightness_ends closes ends]
    decide
  refine (reads.clause_reads tight loose g derived sure context room).andThen ?_
  refine (Reads.missing (by simpa [closes] using noEllipsis)).andThen ?_
  have noComma : close ≠ .comma := by
    rintro rfl
    cases ends
  exact (Reads.missing (by simpa [closes] using noComma)).andThen (.pure rfl)

include ends in
private theorem step_more {joint : Bool}
    (reads : ReadsAs level nest value glyphs (⟨.punctuator .comma, joint⟩ :: rest)) (more : rest ≠ [])
    (tight : Precedence.assignment ≤ level) (derived : g.IsDerived)
    (room : Room sure context (nest + 1)) (found : List Expr) :
    (g.listStep close found).Reads context sure glyphs (· = .inl (found ++ [value])) rest := by
  refine .byPlace fun state known => ?_
  have startsNothing : (TokenKind.punctuator close).startsExpression = false := by
    cases close <;> first | rfl | cases ends
  rw [notClosed reads startsNothing known]
  have loose : tightness (⟨.punctuator .comma, joint⟩ :: rest) < Precedence.assignment := by
    rw [tightness_comma rfl]
    decide
  refine (reads.clause_reads tight loose g derived sure context room).andThen ?_
  refine (Reads.missing (by simp)).andThen ?_
  exact (Reads.accept more rfl).andThen (.pure rfl)

include closes ends in
theorem loop_reads (noEllipsis : close ≠ .ellipsis)
    (reads : ReadsItems nest (closing :: rest) values glyphs) (derived : g.IsDerived)
    (room : Room sure context (nest + 1)) (found : List Expr) (fuel : Nat) :
    (iterate (g.listStep close) fuel found).Reads context sure glyphs (· = found ++ values)
      (closing :: rest) := by
  induction reads generalizing found fuel with
  | nil => exact .stop (step_closed closes found) (by simp) fuel
  | last reads tight =>
    exact .stopWith (step_last closes ends noEllipsis reads tight derived room found) fuel
  | @more _ value _ _ _ _ reads tight later ih =>
    refine .again (step_more ends reads later.ne_nil tight derived room found) (fun fuel => ?_) fuel
    simpa using ih (found ++ [value]) fuel

end

theorem list_reads (reads : ReadsItems nest (closing :: rest) values glyphs)
    (closes : closing.kind = .punctuator close) (ends : close.endsOperand = true)
    (noEllipsis : close ≠ .ellipsis) (more : rest ≠ []) :
    RuleReads (fun g => g.expressionList close) (nest + 1) glyphs (· = values) rest := by
  intro g derived sure context room
  have loop : (angleCloses false (g.loop (g.listStep close) [])).Reads context sure glyphs
      (· = values) (closing :: rest) :=
    .angleCloses (loop_reads closes ends noEllipsis reads derived room.bracketed [] g.fuel)
  exact loop.andThen ((Reads.expect more closes).bind fun _ _ => .pure rfl)

end ReadsItems

namespace ReadsAs

variable {level nest : Nat} {glyphs middle rest : List Glyph} {object : Expr} {joint closed : Bool}

private theorem front_brackets {opening closing : Punctuator} {inner : List Glyph}
    (opens : (TokenKind.punctuator opening).opensBracket = true)
    (closes : (TokenKind.punctuator closing).closesBracket = true)
    (front : ∃ front, inner = front ++ ⟨.punctuator closing, closed⟩ :: rest ∧
      Bracketed (fun _ => True) front) :
    ∃ front, (⟨.punctuator opening, joint⟩ :: inner : List Glyph) = front ++ rest ∧
      Bracketed (· ≠ .punctuator .ellipsis) front := by
  obtain ⟨front, rfl, bracketed⟩ := front
  refine ⟨⟨.punctuator opening, joint⟩ :: (front ++ ⟨.punctuator closing, closed⟩ :: []), by simp, ?_⟩
  exact .group opens closes bracketed .nil

theorem call {values : List Expr} (tight : Precedence.postfixed ≤ level)
    (reads : ReadsAs level nest object glyphs (⟨.punctuator .leftParen, joint⟩ :: middle))
    (items : ReadsItems nest (⟨.punctuator .rightParen, closed⟩ :: rest) values middle)
    (more : rest ≠ []) :
    ReadsAs Precedence.postfixed (nest + 1) (.call object (.ofList values)) glyphs rest := by
  refine appended tight (reads.mono (Nat.le_succ _)) more (front_brackets rfl rfl items.front)
    fun g derived sure context room => ?_
  refine .byPlace fun state known => ?_
  rw [State.kind_of_glyphs known]
  refine (Reads.advance items.ne_nil (by simp)).bind fun _ _ => ?_
  have list := items.list_reads rfl rfl (by simp) more
  exact (list g derived sure context room).andThen (.pure rfl)

theorem index {other : Nat} {position : Expr} (tight : Precedence.postfixed ≤ level)
    (reads : ReadsAs level nest object glyphs (⟨.punctuator .leftBracket, joint⟩ :: middle))
    (inside : ReadsAs other nest position middle (⟨.punctuator .rightBracket, closed⟩ :: rest))
    (more : rest ≠ []) :
    ReadsAs Precedence.postfixed (nest + 1) (.index object position) glyphs rest := by
  have front : ∃ front, middle = front ++ ⟨.punctuator .rightBracket, closed⟩ :: rest ∧
      Bracketed (fun _ => True) front := by
    obtain ⟨front, same, bracketed⟩ := inside.front
    exact ⟨front, same, bracketed.mono fun _ _ => trivial⟩
  refine appended tight (reads.mono (Nat.le_succ _)) more (front_brackets rfl rfl front)
    fun g derived sure context room => ?_
  refine .byPlace fun state known => ?_
  rw [State.kind_of_glyphs known]
  refine (Reads.advance inside.glyphs_ne_nil (by simp)).bind fun _ _ => ?_
  have loose : tightness (⟨.punctuator .rightBracket, closed⟩ :: rest) < Precedence.comma := by
    rw [tightness_ends rfl rfl]
    decide
  have whole : (g.expressionOrBraced).Reads { context with inTemplateArguments := false } sure middle
      (· = position) (⟨.punctuator .rightBracket, closed⟩ :: rest) := by
    obtain ⟨first, tail, rfl, _⟩ := inside.starts
    refine .byPlace fun state known => ?_
    have noBrace : state.isAt .leftBrace = false := by
      have other : first.kind ≠ .punctuator .leftBrace := inside.starts.ne rfl
      simpa [State.isAt_of_glyphs known] using other
    rw [noBrace]
    exact inside.whole loose g derived sure _ room.bracketed
  exact (Reads.angleCloses whole).andThen ((Reads.expect more rfl).bind fun _ _ => .pure rfl)

end ReadsAs

end CppSyntax
