import CppSyntax.Proofs.Parsing.Outcome
import CppSyntax.Grammar.Expression

/-!
What may follow an operand, and how tightly it attaches to the operand. Operators are told apart by
their tokens alone as long as no template argument list is open.
-/

namespace CppSyntax

/-- A token at no place in particular. -/
def Glyph.token (glyph : Glyph) : Token := ⟨glyph.kind, ⟨0, 0⟩, glyph.joint, [], none, false⟩

/-- A place before the given tokens. -/
def State.ofGlyphs : List Glyph → State
  | [] => ⟨none, ⟨.endOfFile, ⟨0, 0⟩, false, [], none, false⟩, [], []⟩
  | first :: rest => ⟨none, first.token, rest.map Glyph.token, []⟩

theorem State.glyphs_ofGlyphs (first : Glyph) (rest : List Glyph) :
    (State.ofGlyphs (first :: rest)).glyphs = first :: rest := by
  simp [State.ofGlyphs, State.glyphs, State.tokens, Function.comp_def, Glyph.token, Token.glyph]

namespace State

variable {a b : State} {c d : Context}

theorem ahead_congr (same : a.glyphs = b.glyphs) (steps : Nat) : a.ahead steps = b.ahead steps := by
  have kinds : ∀ state : State, state.ahead steps =
      (((state.glyphs.tail.take steps).getLast?).getD state.current.glyph).kind := by
    intro state
    simp only [ahead, glyphs, tokens, List.map_cons, List.tail_cons, ← List.map_take,
      List.getLast?_map]
    cases (state.following.take steps).getLast? <;> rfl
  have current : a.current.glyph = b.current.glyph := by
    simp only [glyphs, tokens, List.map_cons, List.cons.injEq] at same
    exact same.1
  rw [kinds, kinds, same, current]

theorem kind_congr (same : a.glyphs = b.glyphs) : a.kind = b.kind := by
  rw [kind_of_glyphs (rfl : b.glyphs = b.current.glyph :: b.following.map Token.glyph),
    kind_of_glyphs (same : a.glyphs = b.current.glyph :: b.following.map Token.glyph)]

theorem joint_congr (same : a.glyphs = b.glyphs) : a.current.joint = b.current.joint := by
  rw [joint_of_glyphs (rfl : b.glyphs = b.current.glyph :: b.following.map Token.glyph),
    joint_of_glyphs (same : a.glyphs = b.current.glyph :: b.following.map Token.glyph)]

theorem binaryOp?_congr (same : a.glyphs = b.glyphs)
    (alike : c.inTemplateArguments = d.inTemplateArguments) : a.binaryOp? c = b.binaryOp? d := by
  simp only [binaryOp?, kind_congr same, joint_congr same, isAhead, ahead_congr same, alike]
  rfl

theorem assignOp?_congr (same : a.glyphs = b.glyphs)
    (alike : c.inTemplateArguments = d.inTemplateArguments) : a.assignOp? c = b.assignOp? d := by
  simp only [assignOp?, kind_congr same, joint_congr same, isAhead, ahead_congr same, alike]
  rfl

end State

/-- The operator between two operands that the tokens start with. -/
def Glyph.binaryOp? (glyphs : List Glyph) : Option (BinaryOp × Nat) :=
  (State.ofGlyphs glyphs).binaryOp? .top

/-- The assignment operator that the tokens start with. -/
def Glyph.assignOp? (glyphs : List Glyph) : Option (AssignOp × Nat) :=
  (State.ofGlyphs glyphs).assignOp? .top

/-- The marks that append something to an operand. -/
def Punctuator.appends : Punctuator → Bool
  | .leftParen | .leftBracket | .dot | .arrow | .plusPlus | .minusMinus => true
  | _ => false

/-- The marks that end an operand and everything around it. -/
def Punctuator.endsOperand : Punctuator → Bool
  | .rightParen | .rightBracket | .rightBrace | .semicolon | .colon | .ellipsis => true
  | _ => false

/-- How tightly what comes next would attach to an operand before it: as tightly as the operator binds
with which it starts, and not at all if it cannot go on after an operand. -/
def tightness (glyphs : List Glyph) : Nat :=
  match (State.ofGlyphs glyphs).kind with
  | .punctuator mark =>
    if mark.appends then Precedence.postfixed
    else if mark == .question then Precedence.conditional
    else if mark == .comma then Precedence.comma
    else match Glyph.binaryOp? glyphs with
      | some (op, _) => op.precedence
      | none => if (Glyph.assignOp? glyphs).isSome then Precedence.assignment else 0
  | _ => 0

section

variable {first : Glyph} {rest : List Glyph}

theorem State.binaryOp?_of_glyphs {state : State} {context : Context} {glyphs : List Glyph}
    (known : state.glyphs = glyphs) (plain : context.inTemplateArguments = false) :
    state.binaryOp? context = Glyph.binaryOp? glyphs := by
  subst known
  exact State.binaryOp?_congr (State.glyphs_ofGlyphs _ _).symm plain

theorem State.assignOp?_of_glyphs {state : State} {context : Context} {glyphs : List Glyph}
    (known : state.glyphs = glyphs) (plain : context.inTemplateArguments = false) :
    state.assignOp? context = Glyph.assignOp? glyphs := by
  subst known
  exact State.assignOp?_congr (State.glyphs_ofGlyphs _ _).symm plain

theorem tightness_of_kind {mark : Punctuator} (kind : first.kind = .punctuator mark) :
    tightness (first :: rest) =
      if mark.appends then Precedence.postfixed
      else if mark == .question then Precedence.conditional
      else if mark == .comma then Precedence.comma
      else match Glyph.binaryOp? (first :: rest) with
        | some (op, _) => op.precedence
        | none => if (Glyph.assignOp? (first :: rest)).isSome then Precedence.assignment else 0 := by
  simp [tightness, State.ofGlyphs, State.kind, Glyph.token, kind]

theorem tightness_appends {mark : Punctuator} (kind : first.kind = .punctuator mark)
    (appends : mark.appends = true) : tightness (first :: rest) = Precedence.postfixed := by
  rw [tightness_of_kind kind, if_pos appends]

theorem tightness_ends {mark : Punctuator} (kind : first.kind = .punctuator mark)
    (ends : mark.endsOperand = true) : tightness (first :: rest) = 0 := by
  obtain ⟨_, joint⟩ := first
  cases kind
  cases mark <;> first | rfl | cases ends

theorem tightness_question (kind : first.kind = .punctuator .question) :
    tightness (first :: rest) = Precedence.conditional := by
  rw [tightness_of_kind kind]
  rfl

theorem tightness_comma (kind : first.kind = .punctuator .comma) :
    tightness (first :: rest) = Precedence.comma := by
  rw [tightness_of_kind kind]
  rfl

end

/-- The last mark of an operator. -/
def BinaryOp.mark : BinaryOp → Punctuator
  | .comma => .comma
  | .logicalOr => .orOr
  | .logicalAnd => .andAnd
  | .bitOr => .pipe
  | .bitXor => .caret
  | .bitAnd => .ampersand
  | .equal => .equal
  | .notEqual => .notEqual
  | .spaceship => .spaceship
  | .less => .less
  | .lessEq => .lessEq
  | .greater | .shiftRight => .greater
  | .greaterEq => .greaterEq
  | .shiftLeft => .shiftLeft
  | .add => .plus
  | .sub => .minus
  | .mul => .star
  | .div => .slash
  | .mod => .percent
  | .memberOf => .dotStar
  | .memberThrough => .arrowStar

/-- The tokens of an operator. A right shift is two joint ones. -/
def BinaryOp.glyphs (op : BinaryOp) (joint : Bool) : List Glyph :=
  match op with
  | .shiftRight => [⟨.punctuator .greater, true⟩, ⟨.punctuator .greater, joint⟩]
  | op => [⟨.punctuator op.mark, joint⟩]

def AssignOp.mark : AssignOp → Punctuator
  | .assign => .assign
  | .add => .plusAssign
  | .sub => .minusAssign
  | .mul => .starAssign
  | .div => .slashAssign
  | .mod => .percentAssign
  | .shiftLeft => .shiftLeftAssign
  | .shiftRight => .greaterEq
  | .bitAnd => .ampersandAssign
  | .bitOr => .pipeAssign
  | .bitXor => .caretAssign

def AssignOp.glyphs (op : AssignOp) (joint : Bool) : List Glyph :=
  match op with
  | .shiftRight => [⟨.punctuator .greater, true⟩, ⟨.punctuator .greaterEq, joint⟩]
  | op => [⟨.punctuator op.mark, joint⟩]

/-- The mark of an operator that is written before or behind its operand. -/
def UnaryOp.mark : UnaryOp → Punctuator
  | .plus => .plus
  | .minus => .minus
  | .logicalNot => .bang
  | .bitNot => .tilde
  | .preIncrement | .postIncrement => .plusPlus
  | .preDecrement | .postDecrement => .minusMinus
  | .dereference => .star
  | .addressOf => .ampersand

theorem Glyph.binaryOp?_glyphs {op : BinaryOp} {joint : Bool} (rest : List Glyph)
    (noComma : op ≠ .comma) (apart : joint = false ∨ op ≠ .greater) :
    Glyph.binaryOp? (op.glyphs joint ++ rest) = some (op, (op.glyphs joint).length) := by
  cases op with
  | comma => exact absurd rfl noComma
  | greater =>
    rcases apart with rfl | other
    · rfl
    · exact absurd rfl other
  | _ => rfl

theorem Glyph.assignOp?_glyphs (op : AssignOp) (joint : Bool) (rest : List Glyph) :
    Glyph.assignOp? (op.glyphs joint ++ rest) = some (op, (op.glyphs joint).length) := by
  cases op <;> rfl

/-- What a binary operator starts attaches as tightly as the operator binds. -/
theorem tightness_of_binaryOp? {glyphs : List Glyph} {op : BinaryOp} {width : Nat}
    (found : Glyph.binaryOp? glyphs = some (op, width)) : tightness glyphs = op.precedence := by
  cases glyphs with
  | nil => cases found
  | cons first rest =>
    obtain ⟨kind, joint⟩ := first
    cases kind with
    | punctuator mark =>
      rw [tightness_of_kind rfl, found]
      cases mark <;> first | rfl | cases found
    | _ => cases found

theorem tightness_of_assignOp? {glyphs : List Glyph} {op : AssignOp} {width : Nat}
    (found : Glyph.assignOp? glyphs = some (op, width)) :
    tightness glyphs = Precedence.assignment := by
  cases glyphs with
  | nil => cases found
  | cons first rest =>
    obtain ⟨kind, joint⟩ := first
    cases kind with
    | punctuator mark =>
      rw [tightness_of_kind rfl, found]
      by_cases greater : mark = .greater
      · subst greater
        cases joint with
        | false => cases found
        | true =>
          cases rest with
          | nil => cases found
          | cons second rest =>
            obtain ⟨kind, joint⟩ := second
            by_cases next : kind = .punctuator .greaterEq
            · subst next
              rfl
            · simp [Glyph.assignOp?, State.assignOp?, State.ofGlyphs, State.kind, Glyph.token,
                State.isAhead, State.ahead, next, Punctuator.assignOp?] at found
      · cases mark <;> first | rfl | cases found | exact absurd rfl greater
    | _ => cases found

theorem tightness_glyphs {op : BinaryOp} {joint : Bool} (rest : List Glyph)
    (apart : joint = false ∨ op ≠ .greater) : tightness (op.glyphs joint ++ rest) = op.precedence := by
  by_cases comma : op = .comma
  · subst comma
    rfl
  · exact tightness_of_binaryOp? (Glyph.binaryOp?_glyphs rest comma apart)

theorem tightness_assign (op : AssignOp) (joint : Bool) (rest : List Glyph) :
    tightness (op.glyphs joint ++ rest) = Precedence.assignment := by
  cases op <;> rfl

end CppSyntax
