import CppSyntax.Proofs.Expression.Appended
import CppSyntax.Proofs.Expression.Fold
import CppSyntax.Proofs.RoundTrip.Height
import CppSyntax.Render.Unit

/-!
The texts of expressions without names. Whatever stands behind it, the text of such an expression is
spelled by tokens that are read as the expression.
-/

namespace CppSyntax

open Grammar

namespace Spelled

variable {rest : List Char} {glyphs : List Glyph}

theorem comma (later : Spelled rest glyphs) :
    Spelled (',' :: ' ' :: rest) (⟨.punctuator .comma, false⟩ :: glyphs) :=
  later.markThenSpace .comma

theorem binaryOp (op : BinaryOp) (later : Spelled rest glyphs) :
    Spelled (op.symbol.toList ++ ' ' :: rest) (op.glyphs false ++ glyphs) := by
  by_cases shift : op = .shiftRight
  · subst shift
    refine Spelled.mark .greater ?_ (later.markThenSpace .greater)
    rintro _ ⟨⟩
    rfl
  · have same : op.symbol = op.mark.spelling ∧
        op.glyphs false = [⟨.punctuator op.mark, false⟩] := by
      cases op <;> first | exact ⟨rfl, rfl⟩ | exact absurd rfl shift
    rw [same.1, same.2]
    exact later.markThenSpace op.mark

theorem assignOp (op : AssignOp) (later : Spelled rest glyphs) :
    Spelled (op.symbol.toList ++ ' ' :: rest) (op.glyphs false ++ glyphs) := by
  by_cases shift : op = .shiftRight
  · subst shift
    refine Spelled.mark .greater ?_ (later.markThenSpace .greaterEq)
    rintro _ ⟨⟩
    rfl
  · have same : op.symbol = op.mark.spelling ∧
        op.glyphs false = [⟨.punctuator op.mark, false⟩] := by
      cases op <;> first | exact ⟨rfl, rfl⟩ | exact absurd rfl shift
    rw [same.1, same.2]
    exact later.markThenSpace op.mark

theorem spacedSymbol (op : BinaryOp) (later : Spelled rest glyphs) :
    ∃ joint, (joint = false ∨ op ≠ .greater) ∧
      Spelled ((Render.spacedSymbol op).toList ++ rest) (op.glyphs joint ++ glyphs) := by
  have spaced (others : Render.spacedSymbol op = " " ++ op.symbol ++ " ") :
      Spelled ((Render.spacedSymbol op).toList ++ rest) (op.glyphs false ++ glyphs) := by
    rw [others]
    simpa using (later.binaryOp op).space
  cases op with
  | comma => exact ⟨false, .inl rfl, later.markThenSpace .comma⟩
  | memberOf =>
    obtain ⟨joint, marked⟩ := later.finished .dotStar rfl
    exact ⟨joint, .inr (by simp), marked⟩
  | memberThrough =>
    obtain ⟨joint, marked⟩ := later.finished .arrowStar rfl
    exact ⟨joint, .inr (by simp), marked⟩
  | _ => exact ⟨false, .inl rfl, spaced rfl⟩

end Spelled

/-- What may stand behind the text of an expression. -/
structure Follows (rest : List Char) (behind : List Glyph) : Prop where
  spelled : Spelled rest behind
  ends : Lexeme.NumberEnds rest
  more : behind ≠ []
  nothing : tightness behind < Precedence.assignment →
    ∃ first tail, behind = first :: tail ∧ throwsNothing first.kind = true

namespace Follows

variable {rest : List Char} {behind : List Glyph} {c : Char} {joint : Bool}

/-- A mark behind an expression that ends it. -/
theorem closing {mark : Punctuator}
    (spelled : Spelled (c :: rest) (⟨.punctuator mark, joint⟩ :: behind))
    (ends : Lexeme.endsNumber c = true) (nothing : throwsNothing (.punctuator mark) = true) :
    Follows (c :: rest) (⟨.punctuator mark, joint⟩ :: behind) where
  spelled := spelled
  ends := Lexeme.numberEnds_of_head ends
  more := List.cons_ne_nil _ _
  nothing _ := ⟨_, _, rfl, nothing⟩

/-- Something behind an expression that attaches at least as tightly as an assignment. -/
theorem tight (spelled : Spelled (c :: rest) behind) (ends : Lexeme.endsNumber c = true)
    (tight : Precedence.assignment ≤ tightness behind) : Follows (c :: rest) behind where
  spelled := spelled
  ends := Lexeme.numberEnds_of_head ends
  more := by
    rintro rfl
    exact absurd tight (by decide)
  nothing loose := absurd loose (Nat.not_lt.mpr tight)

/-- An operator between an expression and another one. A dot would go on with a number. -/
theorem binaryOp {op : BinaryOp} {text : List Char} (noDot : op ≠ .memberOf)
    (apart : joint = false ∨ op ≠ .greater)
    (spelled : Spelled ((Render.spacedSymbol op).toList ++ text) (op.glyphs joint ++ behind)) :
    Follows ((Render.spacedSymbol op).toList ++ text) (op.glyphs joint ++ behind) := by
  by_cases comma : op = .comma
  · subst comma
    exact .closing spelled (by decide) rfl
  · have follows := tightness_glyphs behind apart
    have bound : Precedence.assignment ≤ op.precedence := by
      cases op <;> first | decide | exact absurd rfl comma
    obtain ⟨first, tail, same, ends⟩ : ∃ first tail,
        (Render.spacedSymbol op).toList = first :: tail ∧ Lexeme.endsNumber first = true := by
      cases op <;> first | exact absurd rfl noDot | exact ⟨_, _, rfl, by decide⟩
    rw [same] at spelled ⊢
    exact .tight spelled ends (by rw [follows]; exact bound)

end Follows

/-- The tokens start with something other than a type. -/
def StartsNoType (glyphs : List Glyph) : Prop :=
  ∃ first tail, glyphs = first :: tail ∧ first.kind.startsNoType = true

theorem StartsNoType.noCast {glyphs : List Glyph} {joint : Bool} (starts : StartsNoType glyphs) :
    NoCast (⟨.punctuator .leftParen, joint⟩ :: glyphs) := by
  obtain ⟨first, tail, rfl, noType⟩ := starts
  exact .of_start noType

/-- The text goes on with no operator before it, not counting the operators that can repeat. -/
def OpensPlainly (text : List Char) : Prop :=
  ∃ c tail, text = c :: tail ∧ c ≠ '=' ∧ c ≠ '>'

theorem OpensPlainly.append {text : List Char} (opens : OpensPlainly text) (more : List Char) :
    OpensPlainly (text ++ more) := by
  obtain ⟨c, tail, rfl, plain⟩ := opens
  exact ⟨c, tail ++ more, rfl, plain⟩

theorem OpensPlainly.noAssign {text : List Char} (opens : OpensPlainly text) :
    text.head? ≠ some '=' := by
  obtain ⟨c, tail, rfl, noAssign, _⟩ := opens
  simpa using noAssign

theorem OpensPlainly.noGreater {text : List Char} (opens : OpensPlainly text) :
    text.head? ≠ some '>' := by
  obtain ⟨c, tail, rfl, _, noGreater⟩ := opens
  simpa using noGreater

theorem BinaryOp.opensPlainly (op : BinaryOp) : OpensPlainly (Render.spacedSymbol op).toList := by
  cases op <;> exact ⟨_, _, rfl, by decide⟩

/-- Whether a space keeps an operator apart from an operand that starts with the same mark. -/
def needsSpace (op : UnaryOp) (content : String) : Bool :=
  endsWith (fun c => Render.canRepeat c && startsWith (· == c) content) op.symbol

private theorem growsWith_unspaced {op : UnaryOp} {c : Char} {tail : List Char} {content : String}
    (starts : content.toList = c :: tail) (noAssign : c ≠ '=') (noGreater : c ≠ '>')
    (joined : needsSpace op content = false) : op.mark.growsWith c = false := by
  have head (d : Char) : startsWith (· == d) content = (c == d) := by
    simp [startsWith, starts]
  simp only [needsSpace, head] at joined
  cases op <;> simp_all [endsWith, UnaryOp.symbol, UnaryOp.mark, Punctuator.growsWith,
    Render.canRepeat]

/-- An operator before an operand that it must not run into. -/
theorem Spelled.unaryBefore {op : UnaryOp} {content : String} {rest : List Char} {glyphs : List Glyph}
    (precedes : op.followsOperand = false) (opens : OpensPlainly content.toList)
    (later : Spelled (content.toList ++ rest) glyphs) :
    ∃ joint, Spelled
      ((op.symbol ++ (if needsSpace op content then " " else "") ++ content).toList ++ rest)
      (⟨.punctuator op.mark, joint⟩ :: glyphs) := by
  have symbol : op.symbol = op.mark.spelling := by
    cases op <;> rfl
  rw [symbol]
  cases apart : needsSpace op content with
  | true => exact ⟨false, by simpa using later.markThenSpace op.mark⟩
  | false =>
    obtain ⟨c, tail, starts, noAssign, noGreater⟩ := opens
    have stops : ∀ next ∈ (content.toList ++ rest).head?, op.mark.growsWith next = false := by
      rw [starts]
      rintro _ ⟨⟩
      exact growsWith_unspaced starts noAssign noGreater apart
    exact ⟨_, by simpa using later.mark op.mark stops⟩

theorem UnaryOp.opensPlainly (op : UnaryOp) : OpensPlainly op.symbol.toList := by
  cases op <;> exact ⟨_, _, rfl, by decide⟩

theorem UnaryOp.startsNoType (op : UnaryOp) :
    (TokenKind.punctuator op.mark).startsNoType = true := by
  cases op <;> rfl

/-- Wherever the text stands, it is a form of the expression at the level. -/
structure IsWritten (level nest : Nat) (value : Expr) (text : List Char) : Prop where
  opens : OpensPlainly text
  reads : ∀ rest behind, Follows rest behind → ∃ glyphs, Spelled (text ++ rest) glyphs ∧
    ReadsAs level nest value glyphs behind ∧ StartsNoType glyphs

namespace IsWritten

variable {level other nest deep : Nat} {value left right : Expr} {text leftText rightText : List Char}

theorem mono (written : IsWritten level nest value text) (le : nest ≤ deep) :
    IsWritten level deep value text := by
  refine ⟨written.opens, fun rest behind follows => ?_⟩
  obtain ⟨glyphs, spelled, reads, starts⟩ := written.reads rest behind follows
  exact ⟨glyphs, spelled, reads.mono le, starts⟩

theorem integer {digits : String} (decimal : isDecimal digits = true) :
    IsWritten level 0 (.literal ⟨.integer, digits⟩) digits.toList := by
  refine ⟨?_, fun rest behind follows => ?_⟩
  · simp only [isDecimal, Bool.and_eq_true, List.all_eq_true] at decimal
    cases known : digits.toList with
    | nil => simp [known] at decimal
    | cons c tail =>
      have digit := decimal.2 c (by simp [known])
      refine ⟨c, tail, rfl, ?_, ?_⟩ <;> (rintro rfl; cases digit)
  · exact ⟨_, follows.spelled.integer decimal follows.ends, .integer follows.more, _, _, rfl, rfl⟩

theorem word (word : Keyword) (known : ReadsAs.wordExpression? word = some value) :
    IsWritten level 0 value word.spelling.toList := by
  refine ⟨?_, fun rest behind follows => ?_⟩
  · cases word <;> exact ⟨_, _, rfl, by decide⟩
  · refine ⟨_, follows.spelled.word word follows.ends.1, .word known follows.more, _, _, rfl, ?_⟩
    cases word <;> first | rfl | cases known

theorem group (written : IsWritten level nest value text) :
    IsWritten Precedence.primary (nest + 1) value ('(' :: (text ++ [')'])) := by
  refine ⟨⟨_, _, rfl, by decide⟩, fun rest behind follows => ?_⟩
  obtain ⟨closed, close⟩ := follows.spelled.single .rightParen ')' rfl rfl
  obtain ⟨glyphs, spelled, reads, starts⟩ := written.reads _ _ (.closing close (by decide) rfl)
  obtain ⟨opened, whole⟩ := spelled.single .leftParen '(' rfl rfl
  refine ⟨⟨.punctuator .leftParen, opened⟩ :: glyphs, ?_, ?_, _, _, rfl, rfl⟩
  · simpa using whole
  · exact reads.group starts.noCast follows.more

theorem unaryBefore {op : UnaryOp} {content : String}
    (written : IsWritten level nest value content.toList) (tight : Precedence.unary ≤ level)
    (precedes : op.followsOperand = false) :
    IsWritten Precedence.unary (nest + 1) (.unary op value)
      (op.symbol ++ (if needsSpace op content then " " else "") ++ content).toList := by
  refine ⟨by simpa using op.opensPlainly.append _, fun rest behind follows => ?_⟩
  obtain ⟨glyphs, spelled, reads, _⟩ := written.reads rest behind follows
  obtain ⟨joint, marked⟩ := spelled.unaryBefore precedes written.opens
  exact ⟨_, marked, reads.before precedes tight, _, _, rfl, op.startsNoType⟩

theorem unaryBehind {op : UnaryOp} (written : IsWritten level nest value text)
    (tight : Precedence.postfixed ≤ level) (behindOperand : op.followsOperand = true) :
    IsWritten Precedence.postfixed nest (.unary op value) (text ++ op.symbol.toList) := by
  refine ⟨written.opens.append _, fun rest behind follows => ?_⟩
  have finished : op.mark.isFinished = true := by
    cases op <;> first | rfl | cases behindOperand
  obtain ⟨joint, marked⟩ := follows.spelled.finished op.mark finished
  have known : Follows (op.symbol.toList ++ rest) (⟨.punctuator op.mark, joint⟩ :: behind) := by
    have appends : Precedence.assignment ≤ tightness (⟨.punctuator op.mark, joint⟩ :: behind) := by
      rw [tightness_appends rfl (by cases op <;> first | rfl | cases behindOperand)]
      decide
    cases op <;> cases behindOperand <;> exact .tight marked (by decide) appends
  obtain ⟨glyphs, spelled, reads, starts⟩ := written.reads _ _ known
  exact ⟨glyphs, by simpa using spelled, reads.behind behindOperand tight follows.more, starts⟩

theorem binary {op : BinaryOp} (noComma : op ≠ .comma) (noDot : op ≠ .memberOf)
    (first : IsWritten level nest left leftText) (leftTight : op.precedence ≤ level)
    (second : IsWritten other nest right rightText) (rightTight : op.precedence + 1 ≤ other) :
    IsWritten op.precedence nest (.binary op left right)
      (leftText ++ ((Render.spacedSymbol op).toList ++ rightText)) := by
  refine ⟨first.opens.append _, fun rest behind follows => ?_⟩
  obtain ⟨middle, rightSpelled, rightReads, _⟩ := second.reads rest behind follows
  obtain ⟨joint, apart, marked⟩ := rightSpelled.spacedSymbol op
  obtain ⟨glyphs, spelled, reads, starts⟩ := first.reads _ _ (.binaryOp noDot apart marked)
  refine ⟨glyphs, by simpa using spelled, ?_, starts⟩
  exact reads.binary_of_operands noComma apart rightReads leftTight rightTight

theorem comma (first : IsWritten level nest left leftText)
    (second : IsWritten other nest right rightText) (tight : Precedence.assignment ≤ other) :
    IsWritten Precedence.comma nest (.binary .comma left right)
      (leftText ++ ((Render.spacedSymbol .comma).toList ++ rightText)) := by
  refine ⟨first.opens.append _, fun rest behind follows => ?_⟩
  obtain ⟨middle, rightSpelled, rightReads, _⟩ := second.reads rest behind follows
  obtain ⟨glyphs, spelled, reads, starts⟩ :=
    first.reads _ _ (.closing rightSpelled.comma (by decide) rfl)
  exact ⟨glyphs, by simpa [Render.spacedSymbol] using spelled, reads.comma rightReads tight, starts⟩

theorem assign (op : AssignOp) (first : IsWritten level nest left leftText)
    (leftTight : Precedence.logicalOr ≤ level) (second : IsWritten other nest right rightText)
    (rightTight : Precedence.assignment ≤ other) :
    IsWritten Precedence.assignment nest (.assignment op left right)
      (leftText ++ ' ' :: (op.symbol.toList ++ ' ' :: rightText)) := by
  refine ⟨first.opens.append _, fun rest behind follows => ?_⟩
  obtain ⟨middle, rightSpelled, rightReads, _⟩ := second.reads rest behind follows
  have marked := (rightSpelled.assignOp op).space
  have bound : Precedence.assignment ≤ tightness (op.glyphs false ++ middle) :=
    Nat.le_of_eq (tightness_assign ..).symm
  obtain ⟨glyphs, spelled, reads, starts⟩ := first.reads _ _ (.tight marked (by decide) bound)
  exact ⟨glyphs, by simpa using spelled, reads.assign rightReads leftTight rightTight, starts⟩

theorem choice {test thenValue elseValue : Expr} {testText thenText elseText : List Char}
    {third : Nat} (first : IsWritten level nest test testText)
    (firstTight : Precedence.logicalOr ≤ level)
    (second : IsWritten other nest thenValue thenText)
    (final : IsWritten third nest elseValue elseText) (finalTight : Precedence.assignment ≤ third) :
    IsWritten Precedence.conditional nest (.conditional test thenValue elseValue)
      (testText ++ " ? ".toList ++ thenText ++ " : ".toList ++ elseText) := by
  refine ⟨by simpa using first.opens.append _, fun rest behind follows => ?_⟩
  obtain ⟨last, elseSpelled, elseReads, _⟩ := final.reads rest behind follows
  have colon := (elseSpelled.markThenSpace .colon).space
  obtain ⟨middle, thenSpelled, thenReads, _⟩ := second.reads _ _ (.closing colon (by decide) rfl)
  have question := (thenSpelled.markThenSpace .question).space
  have bound : Precedence.assignment ≤ tightness (⟨.punctuator .question, false⟩ :: middle) := by
    rw [tightness_question rfl]
    decide
  obtain ⟨glyphs, spelled, reads, starts⟩ := first.reads _ _ (.tight question (by decide) bound)
  exact ⟨glyphs, by simpa [Punctuator.spelling] using spelled,
    reads.choice thenReads elseReads firstTight finalTight, starts⟩

theorem throwing (written : IsWritten level nest value text)
    (tight : Precedence.assignment ≤ level) :
    IsWritten Precedence.assignment nest (.throwExpression (.present value))
      ("throw ".toList ++ text) := by
  refine ⟨⟨_, _, rfl, by decide⟩, fun rest behind follows => ?_⟩
  obtain ⟨glyphs, spelled, reads, _⟩ := written.reads rest behind follows
  have thrown := spelled.wordThenSpace .kwThrow
  exact ⟨_, by simpa [Keyword.spelling] using thrown, reads.throwing tight, _, _, rfl, rfl⟩

theorem throwingNothing : IsWritten Precedence.assignment nest (.throwExpression .absent)
    "throw".toList := by
  refine ⟨⟨_, _, rfl, by decide⟩, fun rest behind follows => ?_⟩
  have thrown := follows.spelled.word .kwThrow follows.ends.1
  exact ⟨_, thrown, .throwingNothing follows.more follows.nothing, _, _, rfl, rfl⟩

theorem index (first : IsWritten level nest left leftText) (tight : Precedence.postfixed ≤ level)
    (second : IsWritten other nest right rightText) :
    IsWritten Precedence.postfixed (nest + 1) (.index left right)
      (leftText ++ '[' :: (rightText ++ [']'])) := by
  refine ⟨first.opens.append _, fun rest behind follows => ?_⟩
  obtain ⟨closed, close⟩ := follows.spelled.single .rightBracket ']' rfl rfl
  obtain ⟨middle, rightSpelled, rightReads, _⟩ := second.reads _ _ (.closing close (by decide) rfl)
  obtain ⟨opened, opening⟩ := rightSpelled.single .leftBracket '[' rfl rfl
  have bound : Precedence.assignment ≤ tightness (⟨.punctuator .leftBracket, opened⟩ :: middle) := by
    rw [tightness_appends rfl rfl]
    decide
  obtain ⟨glyphs, spelled, reads, starts⟩ := first.reads _ _ (.tight opening (by decide) bound)
  exact ⟨glyphs, by simpa using spelled, reads.index tight rightReads follows.more, starts⟩

/-- The texts are forms of the values as they stand in a list. -/
inductive Items (nest : Nat) : List Expr → List String → Prop where
  | nil : Items nest [] []
  | cons {level : Nat} {value : Expr} {values : List Expr} {text : String} {texts : List String}
      (tight : Precedence.assignment ≤ level) (written : IsWritten level nest value text.toList)
      (later : Items nest values texts) : Items nest (value :: values) (text :: texts)

theorem list {values : List Expr} {texts : List String} (items : Items nest values texts)
    {rest : List Char} {behind : List Glyph} {joint : Bool}
    (close : Spelled (')' :: rest) (⟨.punctuator .rightParen, joint⟩ :: behind)) :
    ∃ glyphs, Spelled ((", ".intercalate texts).toList ++ ')' :: rest) glyphs ∧
      ReadsItems nest (⟨.punctuator .rightParen, joint⟩ :: behind) values glyphs := by
  induction items with
  | nil => exact ⟨_, by simpa using close, .nil⟩
  | cons tight written items ih =>
    cases items with
    | nil =>
      obtain ⟨glyphs, spelled, reads, _⟩ := written.reads _ _ (.closing close (by decide) rfl)
      exact ⟨glyphs, by simpa using spelled, .last reads tight⟩
    | cons =>
      obtain ⟨later, laterSpelled, laterReads⟩ := ih
      obtain ⟨glyphs, spelled, reads, _⟩ :=
        written.reads _ _ (.closing laterSpelled.comma (by decide) rfl)
      refine ⟨glyphs, ?_, .more reads tight laterReads⟩
      simpa [String.intercalate_cons_cons] using spelled

theorem call {values : List Expr} {texts : List String}
    (written : IsWritten level nest value text) (tight : Precedence.postfixed ≤ level)
    (items : Items nest values texts) :
    IsWritten Precedence.postfixed (nest + 1) (.call value (.ofList values))
      (text ++ '(' :: ((", ".intercalate texts).toList ++ [')'])) := by
  refine ⟨written.opens.append _, fun rest behind follows => ?_⟩
  obtain ⟨closed, close⟩ := follows.spelled.single .rightParen ')' rfl rfl
  obtain ⟨middle, listed, listReads⟩ := list items close
  obtain ⟨opened, opening⟩ := listed.single .leftParen '(' rfl rfl
  have bound : Precedence.assignment ≤ tightness (⟨.punctuator .leftParen, opened⟩ :: middle) := by
    rw [tightness_appends rfl rfl]
    decide
  obtain ⟨glyphs, spelled, reads, starts⟩ := written.reads _ _ (.tight opening (by decide) bound)
  exact ⟨glyphs, by simpa using spelled, reads.call tight listReads follows.more, starts⟩

/-- The text of a builtin type. -/
def builtinText (cv : Qualifiers) (words : List Keyword) : String :=
  " ".intercalate ((cv.before words).map Keyword.spelling)

theorem builtinType_drawing (cv : Qualifiers) {words : List Keyword} (nonempty : words ≠ [])
    (layout : Layout) :
    (Tree.builtinType cv (words.map Keyword.spelling)).drawing layout = builtinText cv words := by
  show (Render.qualified cv (Doc.text (" ".intercalate (words.map Keyword.spelling)))) layout = _
  obtain ⟨isConst, isVolatile⟩ := cv
  cases words with
  | nil => exact absurd rfl nonempty
  | cons word words =>
    cases isConst <;> cases isVolatile <;>
      simp [Render.qualified, Doc.onlyIf, builtinText, Qualifiers.before,
        String.intercalate_cons_cons, Keyword.spelling]
    rfl

theorem words_spelled (words : List Keyword) {rest : List Char} {glyphs : List Glyph}
    (ends : Lexeme.NameEnds rest) (later : Spelled rest glyphs) :
    ∃ type, SpellWords words type ∧
      Spelled ((" ".intercalate (words.map Keyword.spelling)).toList ++ rest) (type ++ glyphs) := by
  induction words with
  | nil => exact ⟨[], rfl, by simpa using later⟩
  | cons word words ih =>
    cases words with
    | nil =>
      exact ⟨[⟨.keyword word, Token.isJoint rest⟩], rfl, by simpa using later.word word ends⟩
    | cons next words =>
      obtain ⟨type, spelled, text⟩ := ih
      refine ⟨⟨.keyword word, false⟩ :: type, ?_, ?_⟩
      · simpa [SpellWords] using spelled
      · simpa [String.intercalate_cons_cons] using text.wordThenSpace word

theorem typeCast (cv : Qualifiers) {words : List Keyword}
    (builtin : ∀ word ∈ words, word.isBuiltinType = true) (nonempty : words ≠ [])
    (written : IsWritten level nest value text) (tight : Precedence.unary ≤ level) :
    IsWritten Precedence.unary (nest + 1) (.cast .parenthesized (Tree.builtin cv words) value)
      ('(' :: ((builtinText cv words).toList ++ ')' :: text)) := by
  refine ⟨⟨_, _, rfl, by decide⟩, fun rest behind follows => ?_⟩
  obtain ⟨glyphs, spelled, reads, _⟩ := written.reads rest behind follows
  obtain ⟨closed, close⟩ := spelled.single .rightParen ')' rfl rfl
  obtain ⟨type, typeWords, typed⟩ :=
    words_spelled (cv.before words) (Lexeme.numberEnds_of_head (by decide)).1 close
  obtain ⟨opened, whole⟩ := typed.single .leftParen '(' rfl rfl
  refine ⟨⟨.punctuator .leftParen, opened⟩ :: (type ++ ⟨.punctuator .rightParen, closed⟩ :: glyphs),
    ?_, reads.typeCast typeWords builtin nonempty tight, _, _, rfl, rfl⟩
  simpa [builtinText] using whole

/-- The text of a fold operator with a space behind it. -/
private theorem foldSymbol_spelled (op : BinaryOp) {rest : List Char} {glyphs : List Glyph}
    (later : Spelled rest glyphs) :
    Spelled ((Render.foldSymbol op).toList ++ ' ' :: rest) (op.glyphs false ++ glyphs) := by
  by_cases comma : op = .comma
  · subst comma
    exact later.comma
  · have spaced : Render.foldSymbol op = " " ++ op.symbol := by
      cases op <;> first | rfl | exact absurd rfl comma
    rw [spaced]
    simpa using (later.binaryOp op).space

private theorem foldSymbol_follows (op : BinaryOp) {rest : List Char} {glyphs : List Glyph}
    (later : Spelled rest glyphs) :
    Follows ((Render.foldSymbol op).toList ++ ' ' :: rest) (op.glyphs false ++ glyphs) := by
  have spelled := foldSymbol_spelled op later
  by_cases comma : op = .comma
  · subst comma
    exact .closing spelled (by decide) rfl
  · obtain ⟨tail, same⟩ : ∃ tail, (Render.foldSymbol op).toList = ' ' :: tail := by
      cases op <;> first | exact ⟨_, rfl⟩ | exact absurd rfl comma
    have bound : Precedence.assignment ≤ tightness (op.glyphs false ++ glyphs) := by
      rw [tightness_glyphs _ (.inl rfl)]
      cases op <;> first | decide | exact absurd rfl comma
    rw [same] at spelled ⊢
    exact .tight spelled (by decide) bound

theorem foldBehind (op : BinaryOp) (written : IsWritten level nest right rightText)
    (tight : Precedence.unary ≤ level) :
    IsWritten Precedence.primary (nest + 1) (.fold op .absent (.present right))
      ("(...".toList ++ ((Render.foldSymbol op).toList ++ ' ' :: (rightText ++ [')']))) := by
  refine ⟨⟨_, _, rfl, by decide⟩, fun rest behind follows => ?_⟩
  obtain ⟨closed, close⟩ := follows.spelled.single .rightParen ')' rfl rfl
  obtain ⟨middle, spelled, reads, _⟩ := written.reads _ _ (.closing close (by decide) rfl)
  obtain ⟨dotted, dots⟩ := (foldSymbol_spelled op spelled).finished .ellipsis rfl
  obtain ⟨opened, whole⟩ := dots.single .leftParen '(' rfl rfl
  refine ⟨⟨.punctuator .leftParen, opened⟩ :: ⟨.punctuator .ellipsis, dotted⟩ ::
    (op.glyphs false ++ middle), ?_, ?_, _, _, rfl, rfl⟩
  · simpa [Punctuator.spelling] using whole
  · exact reads.foldBehind tight (.inl rfl) follows.more

theorem foldBefore (op : BinaryOp) (written : IsWritten level nest left leftText)
    (tight : Precedence.unary ≤ level) :
    IsWritten Precedence.primary (nest + 1) (.fold op (.present left) .absent)
      ('(' :: (leftText ++ ((Render.foldSymbol op).toList ++ " ...)".toList))) := by
  refine ⟨⟨_, _, rfl, by decide⟩, fun rest behind follows => ?_⟩
  obtain ⟨closed, close⟩ := follows.spelled.single .rightParen ')' rfl rfl
  obtain ⟨dotted, dots⟩ := close.finished .ellipsis rfl
  obtain ⟨glyphs, spelled, reads, starts⟩ := written.reads _ _ (foldSymbol_follows op dots)
  obtain ⟨opened, whole⟩ := spelled.single .leftParen '(' rfl rfl
  refine ⟨⟨.punctuator .leftParen, opened⟩ :: glyphs, ?_, ?_, _, _, rfl, rfl⟩
  · simpa [Punctuator.spelling] using whole
  · exact reads.foldBefore none tight (.inl rfl) follows.more starts.noCast
      ReadsAs.foldRight_nothing ⟨[], rfl, .nil⟩

theorem foldBetween (op : BinaryOp) (first : IsWritten level nest left leftText)
    (leftTight : Precedence.unary ≤ level) (second : IsWritten other nest right rightText)
    (rightTight : Precedence.unary ≤ other) :
    IsWritten Precedence.primary (nest + 1) (.fold op (.present left) (.present right))
      ('(' :: (leftText ++ ((Render.foldSymbol op).toList ++ " ...".toList ++
        ((Render.foldSymbol op).toList ++ ' ' :: (rightText ++ [')']))))) := by
  refine ⟨⟨_, _, rfl, by decide⟩, fun rest behind follows => ?_⟩
  obtain ⟨closed, close⟩ := follows.spelled.single .rightParen ')' rfl rfl
  obtain ⟨middle, rightSpelled, rightReads, _⟩ := second.reads _ _ (.closing close (by decide) rfl)
  obtain ⟨dotted, dots⟩ := (foldSymbol_spelled op rightSpelled).finished .ellipsis rfl
  obtain ⟨glyphs, spelled, reads, starts⟩ := first.reads _ _ (foldSymbol_follows op dots)
  obtain ⟨opened, whole⟩ := spelled.single .leftParen '(' rfl rfl
  refine ⟨⟨.punctuator .leftParen, opened⟩ :: glyphs, ?_, ?_, _, _, rfl, rfl⟩
  · simpa [Punctuator.spelling] using whole
  · obtain ⟨back, same, bracketed⟩ := rightReads.front
    refine reads.foldBefore (some right) leftTight (.inl rfl) follows.more starts.noCast
      (ReadsAs.foldRight_reads rightTight (.inl rfl) rightReads) ⟨op.glyphs false ++ back, ?_, ?_⟩
    · simp [same]
    · exact ((op.bracketed_glyphs false).append bracketed).mono fun _ _ => trivial

end IsWritten

end CppSyntax
