import CppSyntax.Proofs.Expression.Writing
import CppSyntax.Proofs.Guess.Keeping

/-!
What a guess can see through the tokens of an expression. A bare `>` in the tokens is one in their text,
and no type goes on past an operator that declares no pointer.
-/

namespace CppSyntax

section

variable {front back : List Char} {previous : Option Char}

/-- A text without a bare `>` has none in its front that stands apart from what follows. -/
theorem holdsBareGreater_front (apart : back.head? ≠ some '=')
    (bare : holdsBareGreater previous (front ++ back) = false) :
    holdsBareGreater previous front = false := by
  induction front generalizing previous with
  | nil => rfl
  | cons c front ih =>
    rw [List.cons_append, holdsBareGreater, Bool.or_eq_false_iff] at bare
    rw [holdsBareGreater, ih bare.2, Bool.or_false]
    cases front with
    | nil => simpa [apart] using bare.1
    | cons => exact bare.1

theorem holdsBareGreater_back (opens : back.head? ≠ some '>')
    (bare : holdsBareGreater previous (front ++ back) = false) :
    holdsBareGreater none back = false := by
  induction front generalizing previous with
  | nil =>
    cases back with
    | nil => rfl
    | cons c back =>
      have other : (c == '>') = false := by simpa using opens
      simpa [holdsBareGreater, other] using bare
  | cons c front ih =>
    rw [List.cons_append, holdsBareGreater, Bool.or_eq_false_iff] at bare
    exact ih bare.2

end

theorem Ordinary.plain {first : Glyph} {rest : List Glyph} (ordinary : first.kind.isOrdinary = true)
    (noBracket : first.kind ≠ .punctuator .leftBracket) (later : Ordinary rest) :
    Ordinary (first :: rest) :=
  .token ordinary (fun is => absurd is noBracket) later

/-- A guess sees past a bracket that is closed again. -/
theorem lookOutside_past_group {decides : Glyph → List Glyph → Option α} {closed : List Glyph → α}
    {glyphs front rest : List Glyph} {opening closing : Glyph} {outside : TokenKind → Prop}
    (opens : opening.kind.opensBracket = true) (closes : closing.kind.closesBracket = true)
    (bracketed : Bracketed outside front) (whole : glyphs = front ++ closing :: rest) :
    lookOutside decides closed 0 (opening :: glyphs) = lookOutside decides closed 0 rest :=
  whole ▸ lookOutside_group opens closes bracketed

/-- Brackets that are closed again do not count. -/
theorem bracketEnd_bracketed {outside : TokenKind → Prop} {front rest : List Glyph}
    (bracketed : Bracketed outside front) : bracketEnd 0 (front ++ rest) = bracketEnd 0 rest := by
  induction bracketed with
  | nil => rfl
  | token noOpening noClosing _ _ _ ih => exact (lookOutside_token noOpening noClosing).trans ih
  | group opens closes inside _ _ ih =>
    rw [List.cons_append, List.append_assoc, List.cons_append]
    exact (lookOutside_group opens closes inside).trans ih

/-- The operators that are also written in declarators, before what they declare. -/
def BinaryOp.marksPointer : BinaryOp → Bool
  | .mul | .bitAnd | .logicalAnd => true
  | _ => false

section

variable {op : BinaryOp} {joint : Bool} {rest : List Glyph}

theorem BinaryOp.ordinary (later : Ordinary rest) : Ordinary (op.glyphs joint ++ rest) := by
  cases op with
  | shiftRight => exact .plain rfl (by simp) (.plain rfl (by simp) later)
  | _ => exact .plain rfl (by simp [BinaryOp.mark]) later

theorem BinaryOp.leavesType (noPointer : op.marksPointer = false) :
    leavesType 0 (op.glyphs joint ++ rest) = true := by
  cases op <;> first | cases noPointer; done | exact leavesType_other rfl rfl rfl

theorem BinaryOp.argumentsEnd (noAngle : op.mark ≠ .greater)
    (shut : CppSyntax.argumentsEnd 0 rest = false) :
    CppSyntax.argumentsEnd 0 (op.glyphs joint ++ rest) = false := by
  cases op with
  | greater | shiftRight => exact absurd rfl noAngle
  | greaterEq => exact argumentsEnd_ends rfl
  | _ => exact (argumentsEnd_token rfl rfl rfl).trans shut

theorem BinaryOp.greaterAhead (noAngle : op.mark ≠ .greater)
    (clear : CppSyntax.greaterAhead 0 rest = false) :
    CppSyntax.greaterAhead 0 (op.glyphs joint ++ rest) = false := by
  cases op with
  | greater | shiftRight => exact absurd rfl noAngle
  | _ => exact (greaterAhead_token rfl rfl (by simp [BinaryOp.mark]) rfl).trans clear

/-- An operator that is a bare `>` shows in its text. -/
theorem BinaryOp.mark_ne_greater {front back : List Char} {previous : Option Char}
    (bare : holdsBareGreater previous (front ++ ((Render.spacedSymbol op).toList ++ back)) = false) :
    op.mark ≠ .greater := by
  intro angle
  have behind : holdsBareGreater none ((Render.spacedSymbol op).toList ++ back) = false :=
    holdsBareGreater_back (op.opensPlainly.append back).noGreater bare
  cases op <;> first
    | cases angle; done
    | simp [Render.spacedSymbol, symbol, holdsBareGreater] at behind

end

section

variable {op : AssignOp} {joint : Bool} {rest : List Glyph}

theorem AssignOp.ordinary (later : Ordinary rest) : Ordinary (op.glyphs joint ++ rest) := by
  cases op with
  | shiftRight => exact .plain rfl (by simp) (.plain rfl (by simp) later)
  | _ => exact .plain rfl (by simp [AssignOp.mark]) later

theorem AssignOp.leavesType : leavesType 0 (op.glyphs joint ++ rest) = true := by
  cases op <;> exact leavesType_other rfl rfl rfl

/-- No template arguments are closed behind an assignment. -/
theorem AssignOp.argumentsEnd : argumentsEnd 0 (op.glyphs joint ++ rest) = false := by
  cases op with
  | shiftRight => exact argumentsEnd_greater rfl
  | _ => exact argumentsEnd_ends rfl

/-- An assignment that starts with a bare `>` shows in its text. -/
theorem AssignOp.greaterAhead {front back : List Char} {previous : Option Char}
    (bare : holdsBareGreater previous (front ++ ' ' :: (op.symbol.toList ++ back)) = false)
    (clear : CppSyntax.greaterAhead 0 rest = false) :
    CppSyntax.greaterAhead 0 (op.glyphs false ++ rest) = false := by
  have behind : holdsBareGreater none (' ' :: (op.symbol.toList ++ back)) = false :=
    holdsBareGreater_back (by simp) bare
  cases op with
  | shiftRight => simp [AssignOp.symbol, holdsBareGreater] at behind
  | _ => exact (greaterAhead_token rfl rfl (by simp [AssignOp.mark]) rfl).trans clear

end

section

variable {op : UnaryOp} {joint : Bool} {rest : List Glyph}

theorem UnaryOp.ordinary (later : Ordinary rest) :
    Ordinary (⟨.punctuator op.mark, joint⟩ :: rest) := by
  cases op <;> exact .plain rfl (by simp [UnaryOp.mark]) later

theorem UnaryOp.greaterAhead :
    CppSyntax.greaterAhead 0 (⟨.punctuator op.mark, joint⟩ :: rest) =
      CppSyntax.greaterAhead 0 rest := by
  cases op <;> exact greaterAhead_token rfl rfl (by simp [UnaryOp.mark]) rfl

theorem UnaryOp.argumentsEnd :
    CppSyntax.argumentsEnd 0 (⟨.punctuator op.mark, joint⟩ :: rest) =
      CppSyntax.argumentsEnd 0 rest := by
  cases op <;> exact argumentsEnd_token rfl rfl rfl

/-- A type that goes on past an operator leaves its bracket with what the operator stands before. -/
theorem UnaryOp.leavesType (noLess : rest.head?.map Glyph.kind ≠ some (.punctuator .less))
    (leaves : CppSyntax.leavesType 0 rest = true) :
    CppSyntax.leavesType 0 (⟨.punctuator op.mark, joint⟩ :: rest) = true := by
  have through {mark : Punctuator} (allowed : Region.type.allows (.punctuator mark) = true)
      (plain : (TokenKind.punctuator mark).opensBracket = false ∧
        (TokenKind.punctuator mark).closesBracket = false) :
      CppSyntax.leavesType 0 (⟨.punctuator mark, joint⟩ :: rest) = true :=
    (leavesType_token plain.1 plain.2 allowed fun less => absurd less noLess).trans leaves
  cases op <;> first | exact leavesType_other rfl rfl rfl | exact through rfl ⟨rfl, rfl⟩

end

end CppSyntax
