import CppSyntax.Proofs.Expression.Named
import CppSyntax.Proofs.Expression.Sight

/-!
The texts of expressions over names. A text is laid out in the knowledge whether a bare `>` follows in
the same brackets. If none does, no template arguments that it seems to open are ever closed; if one
does, it opens none.
-/

namespace CppSyntax

open Grammar

/-- The text ends like a name. -/
def EndsInWord (text : List Char) : Prop := text.getLast?.any isWordChar = true

theorem EndsInWord.append {front text : List Char} (ends : EndsInWord text) :
    EndsInWord (front ++ text) := by
  rw [EndsInWord, List.getLast?_append]
  cases last : text.getLast? with
  | none => simp [EndsInWord, last] at ends
  | some c => simpa [EndsInWord, last] using ends

/-- What may stand behind a text of the level that is laid out in the knowledge whether a bare `>`
follows. A conditional needs more than others, since assignments may follow its `?` in template
arguments. -/
structure Adjoins (greater : Bool) (level : Nat) (text rest : List Char) (behind : List Glyph) :
    Prop where
  spelled : Spelled rest behind
  ends : Lexeme.NameEnds rest
  ordinary : Ordinary behind
  shut : greater = false → argumentsEnd 0 behind = false
  clear : greater = false → level ≤ Precedence.conditional → greaterAhead 0 behind = false
  compares : EndsInWord text → Compares behind

/-- A mark behind a text that is no `<`. -/
theorem Adjoins.mark {greater joint : Bool} {level : Nat} {text rest : List Char}
    {behind : List Glyph} {c : Char} {mark : Punctuator}
    (spelled : Spelled (c :: rest) (⟨.punctuator mark, joint⟩ :: behind))
    (ends : (!Lexeme.isNameChar c && c != '"' && c != '\'') = true) (noLess : mark ≠ .less)
    (ordinary : Ordinary (⟨.punctuator mark, joint⟩ :: behind))
    (shut : greater = false → argumentsEnd 0 (⟨.punctuator mark, joint⟩ :: behind) = false)
    (clear : greater = false → level ≤ Precedence.conditional →
      greaterAhead 0 (⟨.punctuator mark, joint⟩ :: behind) = false) :
    Adjoins greater level text (c :: rest) (⟨.punctuator mark, joint⟩ :: behind) where
  spelled := spelled
  ends := by
    simp only [Bool.and_eq_true, Bool.not_eq_true', bne_iff_ne] at ends
    rintro _ ⟨⟩
    exact ⟨ends.1.1, ends.1.2, ends.2⟩
  ordinary := ordinary
  shut := shut
  clear := clear
  compares _ less := absurd less (by simpa using noLess)

/-- A mark that ends everything around the text. -/
theorem Adjoins.closing {greater joint : Bool} {level : Nat} {text rest : List Char}
    {behind : List Glyph} {c : Char} {mark : Punctuator}
    (spelled : Spelled (c :: rest) (⟨.punctuator mark, joint⟩ :: behind))
    (ends : (!Lexeme.isNameChar c && c != '"' && c != '\'') = true) (noLess : mark ≠ .less)
    (ordinary : Ordinary (⟨.punctuator mark, joint⟩ :: behind))
    (clear : greaterAhead 0 (⟨.punctuator mark, joint⟩ :: behind) = false) :
    Adjoins greater level text (c :: rest) (⟨.punctuator mark, joint⟩ :: behind) :=
  .mark spelled ends noLess ordinary (fun _ => argumentsEnd_of_greaterAhead clear) fun _ _ => clear

theorem not_le_conditional {level : Nat} (tight : Precedence.logicalOr ≤ level) :
    ¬ level ≤ Precedence.conditional :=
  Nat.not_le.mpr (Nat.lt_of_lt_of_le (by decide) tight)

/-- The tokens of a text before those behind it. They are a form of the expression, and they let a
guess that starts before them see what stands behind them. -/
structure LaidBefore (level nest : Nat) (value : Expr) (text rest : List Char)
    (behind glyphs : List Glyph) : Prop where
  spelled : Spelled (text ++ rest) glyphs
  reads : ReadsAs level nest value glyphs behind
  ordinary : Ordinary glyphs
  shut : holdsBareGreater none text = false → argumentsEnd 0 behind = false →
    (level ≤ Precedence.conditional → greaterAhead 0 behind = false) → argumentsEnd 0 glyphs = false
  clear : holdsBareGreater none text = false → greaterAhead 0 behind = false →
    greaterAhead 0 glyphs = false
  leaves : leavesType 0 behind = true → leavesType 0 glyphs = true
  noType : level < Precedence.postfixed → StartsNoType glyphs ∨ leavesType 0 glyphs = true

/-- Wherever the text may stand in this knowledge, it is a form of the expression at the level. -/
structure IsLaidOut (greater : Bool) (level nest : Nat) (value : Expr) (text : List Char) :
    Prop where
  opens : OpensPlainly text
  before : ∀ rest behind, Adjoins greater level text rest behind →
    ∃ glyphs, LaidBefore level nest value text rest behind glyphs

theorem LaidBefore.mono {level nest deep : Nat} {value : Expr} {text rest : List Char}
    {behind glyphs : List Glyph} (laid : LaidBefore level nest value text rest behind glyphs)
    (le : nest ≤ deep) : LaidBefore level deep value text rest behind glyphs :=
  { laid with reads := laid.reads.mono le }

namespace IsLaidOut

variable {greater inside : Bool} {level other nest deep : Nat} {value left right : Expr}
  {text rest leftText rightText : List Char} {behind : List Glyph}

theorem mono (laid : IsLaidOut greater level nest value text) (le : nest ≤ deep) :
    IsLaidOut greater level deep value text := by
  refine ⟨laid.opens, fun rest behind adjoins => ?_⟩
  obtain ⟨glyphs, before⟩ := laid.before rest behind adjoins
  exact ⟨glyphs, before.mono le⟩

theorem word (word : Keyword) (known : ReadsAs.wordExpression? word = some value) :
    IsLaidOut greater level 0 value word.spelling.toList := by
  have isLeaf : (TokenKind.keyword word).isLeaf = true := by
    cases word <;> first | rfl | cases known
  refine ⟨by cases word <;> exact ⟨_, _, rfl, by decide⟩, fun rest behind adjoins => ?_⟩
  exact ⟨_, {
    spelled := adjoins.spelled.word word adjoins.ends
    reads := .word known adjoins.ordinary.ne_nil
    ordinary := .plain isLeaf (by simp) adjoins.ordinary
    shut := fun _ shut _ => (argumentsEnd_token rfl rfl rfl).trans shut
    clear := fun _ clear => (greaterAhead_token rfl rfl (by simp) rfl).trans clear
    leaves := fun _ => leavesType_other rfl rfl rfl
    noType := fun _ => .inr (leavesType_other rfl rfl rfl) }⟩

end IsLaidOut

/-- An identifier in which every character is a letter, a number or an underscore. -/
def isPlainIdentifier (ident : String) : Bool := isIdentifier ident && !ident.toList.contains '$'

section

variable {ident : String} (plain : isPlainIdentifier ident = true)

include plain

theorem isIdentifier_of_plain : isIdentifier ident = true := by
  simp only [isPlainIdentifier, Bool.and_eq_true] at plain
  exact plain.1

theorem isWordChar_of_plain : ∀ c ∈ ident.toList, isWordChar c = true := by
  simp only [isPlainIdentifier, isIdentifier, Bool.and_eq_true, Bool.not_eq_true',
    List.contains_eq_mem, decide_eq_false_iff_not] at plain
  obtain ⟨⟨name, _⟩, noDollar⟩ := plain
  intro c member
  have isChar : Lexeme.isNameChar c = true := by
    cases spelled : ident.toList with
    | nil => simp [spelled] at member
    | cons first more =>
      simp only [spelled, Lexeme.isName, Bool.and_eq_true, List.all_eq_true] at name
      rcases List.mem_cons.mp (spelled ▸ member) with rfl | later
      · exact Lexeme.isNameChar_of_isNameStart name.1
      · exact name.2 c later
  have other : c ≠ '$' := by
    rintro rfl
    exact noDollar member
  simpa [Lexeme.isNameChar, isWordChar, other] using isChar

theorem startsName_of_plain :
    ∃ first more, ident.toList = first :: more ∧ Lexeme.isNameStart first = true := by
  have name := isIdentifier_of_plain plain
  simp only [isIdentifier, Bool.and_eq_true] at name
  cases spelled : ident.toList with
  | nil => simp [spelled, Lexeme.isName] at name
  | cons first more =>
    simp only [spelled, Lexeme.isName, Bool.and_eq_true] at name
    exact ⟨first, more, rfl, name.1.1⟩

theorem endsInWord_of_plain : EndsInWord ident.toList := by
  obtain ⟨first, more, spelled, _⟩ := startsName_of_plain plain
  have last := List.getLast?_eq_some_getLast (spelled ▸ List.cons_ne_nil first more)
  rw [EndsInWord, last]
  exact isWordChar_of_plain plain _ (List.mem_of_getLast? last)

theorem opensPlainly_of_plain : OpensPlainly ident.toList := by
  obtain ⟨first, more, spelled, starts⟩ := startsName_of_plain plain
  refine ⟨first, more, spelled, ?_, ?_⟩ <;> (rintro rfl; exact absurd starts (by decide))

end

namespace IsLaidOut

variable {greater inside : Bool} {level other nest deep : Nat} {value left right : Expr}
  {text rest leftText rightText : List Char} {behind : List Glyph}

theorem name {ident : String} (plain : isPlainIdentifier ident = true) :
    IsLaidOut greater Precedence.primary 0 (.nameExpression (.simpleName ident)) ident.toList := by
  refine ⟨opensPlainly_of_plain plain, fun rest behind adjoins => ?_⟩
  have compares := adjoins.compares (endsInWord_of_plain plain)
  exact ⟨_, {
    spelled := adjoins.spelled.identifier (isIdentifier_of_plain plain) adjoins.ends
    reads := .name adjoins.ordinary compares
    ordinary := .plain rfl (by simp) adjoins.ordinary
    shut := fun _ shut _ => (argumentsEnd_token rfl rfl rfl).trans shut
    clear := fun _ clear => (greaterAhead_token rfl rfl (by simp) rfl).trans clear
    leaves := fun leaves => (leavesType_token rfl rfl rfl compares).trans leaves
    noType := fun loose => absurd loose (by decide) }⟩

/-- A text in parentheses that open no cast, since the text is no type or no operand stands behind. -/
theorem group_before (laid : IsLaidOut inside level nest value text)
    (adjoins : Adjoins greater other ('(' :: (text ++ [')'])) rest behind)
    (noCast : level < Precedence.postfixed ∨
      behind.head?.map Glyph.kind = some (.punctuator .less)) :
    ∃ glyphs, LaidBefore Precedence.primary (nest + 1) value ('(' :: (text ++ [')'])) rest behind
      glyphs := by
  obtain ⟨closed, close⟩ := adjoins.spelled.single .rightParen ')' rfl rfl
  have closing : Ordinary (⟨.punctuator .rightParen, closed⟩ :: behind) :=
    .plain rfl (by simp) adjoins.ordinary
  obtain ⟨glyphs, inner⟩ := laid.before _ _
    (.closing close (by decide) (by simp) closing (lookOutside_closed rfl))
  obtain ⟨opened, whole⟩ := inner.spelled.single .leftParen '(' rfl rfl
  obtain ⟨front, same, bracketed⟩ := inner.reads.front
  have ordinary : Ordinary (⟨.punctuator .leftParen, opened⟩ :: glyphs) :=
    .plain rfl (by simp) inner.ordinary
  have opensNone : NoCast (⟨.punctuator .leftParen, opened⟩ :: glyphs) := by
    -- An operand stands behind every cast. It cannot start with `<`, whatever the type was.
    rcases noCast with loose | less
    · rcases inner.noType loose with starts | leaves
      · exact starts.noCast
      · exact .of_leavesType ordinary leaves
    · obtain ⟨next, tail, rfl⟩ := List.exists_cons_of_ne_nil adjoins.ordinary.ne_nil
      have ends : bracketEnd 0 glyphs = ⟨.punctuator .rightParen, closed⟩ :: next :: tail := by
        rw [same, bracketEnd_bracketed bracketed]
        exact lookOutside_closed rfl
      exact .of_less ordinary (by simpa using less) ends
  exact ⟨⟨.punctuator .leftParen, opened⟩ :: glyphs, {
    spelled := by simpa using whole
    reads := inner.reads.group opensNone adjoins.ordinary.ne_nil
    ordinary := ordinary
    shut := fun _ shut _ => (lookOutside_past_group rfl rfl bracketed same).trans shut
    clear := fun _ => (lookOutside_past_group rfl rfl bracketed same).trans
    leaves := (lookOutside_past_group rfl rfl bracketed same).trans
    noType := fun loose => absurd loose (by decide) }⟩

theorem group (laid : IsLaidOut inside level nest value text)
    (loose : level < Precedence.postfixed) :
    IsLaidOut greater Precedence.primary (nest + 1) value ('(' :: (text ++ [')'])) :=
  ⟨⟨_, _, rfl, by decide⟩, fun _ _ adjoins => laid.group_before adjoins (.inl loose)⟩

theorem unaryBefore {op : UnaryOp} {content : String}
    (laid : IsLaidOut greater level nest value content.toList) (tight : Precedence.unary ≤ level)
    (precedes : op.followsOperand = false) :
    IsLaidOut greater Precedence.unary (nest + 1) (.unary op value)
      (op.symbol ++ (if needsSpace op content then " " else "") ++ content).toList := by
  refine ⟨by simpa using op.opensPlainly.append _, fun rest behind adjoins => ?_⟩
  have whole (front : String) : (front ++ content).toList = front.toList ++ content.toList := by simp
  have noChoice : ¬ level ≤ Precedence.conditional := not_le_conditional (Nat.le_trans (by decide) tight)
  obtain ⟨glyphs, before⟩ := laid.before rest behind
    { adjoins with
      clear := fun _ le => absurd le noChoice
      compares := fun ends => adjoins.compares (whole _ ▸ ends.append) }
  obtain ⟨joint, marked⟩ := before.spelled.unaryBefore precedes laid.opens
  have noLess : glyphs.head?.map Glyph.kind ≠ some (.punctuator .less) := by
    obtain ⟨first, tail, rfl, _⟩ := before.reads.starts
    simpa using before.reads.starts.ne rfl
  have back (bare : holdsBareGreater none (op.symbol ++ (if needsSpace op content then " " else "") ++
      content).toList = false) : holdsBareGreater none content.toList = false :=
    holdsBareGreater_back laid.opens.noGreater (whole _ ▸ bare)
  exact ⟨_, {
    spelled := marked
    reads := before.reads.before precedes tight
    ordinary := op.ordinary before.ordinary
    shut := fun bare shut _ =>
      op.argumentsEnd.trans (before.shut (back bare) shut fun le => absurd le noChoice)
    clear := fun bare clear => op.greaterAhead.trans (before.clear (back bare) clear)
    leaves := fun leaves => op.leavesType noLess (before.leaves leaves)
    noType := fun _ => .inl ⟨_, _, rfl, op.startsNoType⟩ }⟩

/-- A text with an operator and its right operand behind it. -/
theorem binary_before {op : BinaryOp} {joint : Bool} {middle glyphs : List Glyph}
    (noPointer : op.marksPointer = false) (apart : joint = false ∨ op ≠ .greater)
    (first : LaidBefore level nest left leftText
      ((Render.spacedSymbol op).toList ++ (rightText ++ rest)) (op.glyphs joint ++ middle) glyphs)
    (leftTight : op.precedence ≤ level)
    (second : LaidBefore other nest right rightText rest behind middle)
    (opens : OpensPlainly rightText) (rightTight : op.precedence + 1 ≤ other) :
    LaidBefore op.precedence nest (.binary op left right)
      (leftText ++ ((Render.spacedSymbol op).toList ++ rightText)) rest behind glyphs where
  spelled := by simpa using first.spelled
  reads := by
    by_cases comma : op = .comma
    · subst comma
      exact first.reads.comma second.reads rightTight
    · exact first.reads.binary_of_operands comma apart second.reads leftTight rightTight
  ordinary := first.ordinary
  shut bare shut clear := by
    have front := holdsBareGreater_front (op.opensPlainly.append rightText).noAssign bare
    have back : holdsBareGreater none rightText = false :=
      holdsBareGreater_back opens.noGreater (List.append_assoc .. ▸ bare)
    have noAngle := op.mark_ne_greater bare
    have rightShut := second.shut back shut fun le => clear (Nat.le_of_succ_le (Nat.le_trans rightTight le))
    refine first.shut front (op.argumentsEnd noAngle rightShut) fun le => ?_
    exact op.greaterAhead noAngle (second.clear back (clear (Nat.le_trans leftTight le)))
  clear bare clear := by
    have front := holdsBareGreater_front (op.opensPlainly.append rightText).noAssign bare
    have back : holdsBareGreater none rightText = false :=
      holdsBareGreater_back opens.noGreater (List.append_assoc .. ▸ bare)
    exact first.clear front (op.greaterAhead (op.mark_ne_greater bare) (second.clear back clear))
  leaves _ := first.leaves (op.leavesType noPointer)
  noType _ := .inr (first.leaves (op.leavesType noPointer))

/-- What stands behind the left operand of an operator is an operator and the right operand. -/
private theorem adjoins_binary {op : BinaryOp} {joint : Bool} {middle : List Glyph}
    (second : LaidBefore other nest right rightText rest behind middle)
    (marked : Spelled ((Render.spacedSymbol op).toList ++ (rightText ++ rest))
      (op.glyphs joint ++ middle))
    (rightTight : op.precedence + 1 ≤ other) (leftTight : op.precedence ≤ level)
    (after : greater = false → holdsBareGreater none rightText = false ∧
      argumentsEnd 0 behind = false ∧
      (op.precedence ≤ Precedence.conditional → greaterAhead 0 behind = false))
    (angle : op ≠ .less ∨ ¬ EndsInWord leftText ∨ greater = false) :
    Adjoins (greater || Render.startsWithGreater op) level leftText
      ((Render.spacedSymbol op).toList ++ (rightText ++ rest)) (op.glyphs joint ++ middle) where
  spelled := marked
  ends := by
    have first : ((Render.spacedSymbol op).toList ++ (rightText ++ rest)).head? =
        (Render.spacedSymbol op).toList.head? := by
      cases op <;> rfl
    rw [Lexeme.NameEnds, first]
    cases op <;> (rintro _ ⟨⟩; decide)
  ordinary := op.ordinary second.ordinary
  shut none := by
    simp only [Bool.or_eq_false_iff] at none
    obtain ⟨bare, shut, clear⟩ := after none.1
    refine op.argumentsEnd ?_ (second.shut bare shut fun le => clear (Nat.le_of_succ_le (Nat.le_trans rightTight le)))
    cases op <;> first | cases none.2; done | simp [BinaryOp.mark]
  clear none le := by
    simp only [Bool.or_eq_false_iff] at none
    obtain ⟨bare, _, clear⟩ := after none.1
    refine op.greaterAhead ?_ (second.clear bare (clear (Nat.le_trans leftTight le)))
    cases op <;> first | cases none.2; done | simp [BinaryOp.mark]
  compares ends less := by
    have isLess : op = .less := by
      cases op <;> first | rfl | cases less
    subst isLess
    obtain ⟨bare, shut, clear⟩ := after ((angle.resolve_left (· rfl)).resolve_left (· ends))
    refine BinaryOp.argumentsEnd (by simp [BinaryOp.mark]) (second.shut bare shut fun le => ?_)
    exact clear (Nat.le_of_succ_le (Nat.le_trans rightTight le))

/-- An operator that groups to the left. The left operand of `<` has parentheses if it ends like a name
while a bare `>` follows. -/
theorem binary {op : BinaryOp} {leftText rightText : String} (noPointer : op.marksPointer = false)
    (first : IsLaidOut (greater || hasBareGreater rightText || Render.startsWithGreater op) level nest
      left leftText.toList) (leftTight : op.precedence ≤ level)
    (second : IsLaidOut greater other nest right rightText.toList)
    (rightTight : op.precedence + 1 ≤ other) :
    IsLaidOut greater op.precedence (nest + 1) (.binary op left right)
      ((if op == .less && endsWith isWordChar leftText && (greater || hasBareGreater rightText)
        then "(" ++ leftText ++ ")" else leftText) ++ Render.spacedSymbol op ++ rightText).toList := by
  refine ⟨?_, fun rest behind adjoins => ?_⟩
  · rw [String.append_assoc, String.toList_append]
    refine OpensPlainly.append ?_ _
    split
    · exact ⟨'(', leftText.toList ++ [')'], by simp, by decide⟩
    · exact first.opens
  · obtain ⟨middle, rightBefore⟩ := second.before rest behind
      { adjoins with
        clear := fun none le => adjoins.clear none (Nat.le_of_succ_le (Nat.le_trans rightTight le))
        compares := fun ends => adjoins.compares (by
          rw [String.toList_append]
          exact ends.append) }
    obtain ⟨joint, apart, marked⟩ := rightBefore.spelled.spacedSymbol op
    have after (none : (greater || hasBareGreater rightText) = false) :
        holdsBareGreater .none rightText.toList = false ∧ argumentsEnd 0 behind = false ∧
          (op.precedence ≤ Precedence.conditional → greaterAhead 0 behind = false) := by
      rw [Bool.or_eq_false_iff] at none
      exact ⟨none.2, adjoins.shut none.1, adjoins.clear none.1⟩
    cases ambiguous : op == .less && endsWith isWordChar leftText &&
      (greater || hasBareGreater rightText) with
    | true =>
      -- The text in parentheses ends in no name, so that `<` behind it opens nothing.
      simp only [Bool.and_eq_true, beq_iff_eq] at ambiguous
      obtain ⟨⟨rfl, _⟩, _⟩ := ambiguous
      have closed : ¬ EndsInWord ('(' :: (leftText.toList ++ [')'])) := by
        rw [EndsInWord, ← List.cons_append, List.getLast?_concat]
        decide
      obtain ⟨glyphs, leftBefore⟩ := first.group_before
        (adjoins_binary rightBefore marked rightTight (Nat.le_refl _) after (.inr (.inl closed)))
        (.inr rfl)
      have whole := binary_before noPointer apart leftBefore (by decide)
        (rightBefore.mono (Nat.le_succ nest)) second.opens rightTight
      exact ⟨glyphs, by simpa using whole⟩
    | false =>
      have angle : op ≠ .less ∨ ¬ EndsInWord leftText.toList ∨
          (greater || hasBareGreater rightText) = false := by
        simp only [Bool.and_eq_false_iff, beq_eq_false_iff_ne] at ambiguous
        rcases ambiguous with (other | noWord) | none
        · exact .inl other
        · exact .inr (.inl (Bool.eq_false_iff.mp noWord))
        · exact .inr (.inr none)
      obtain ⟨glyphs, leftBefore⟩ :=
        first.before _ _ (adjoins_binary rightBefore marked rightTight leftTight after angle)
      have whole := binary_before noPointer apart leftBefore leftTight rightBefore second.opens
        rightTight
      exact ⟨glyphs, by simpa using whole.mono (Nat.le_succ nest)⟩

/-- An assignment. No template arguments are closed behind its operator, whatever is assigned. -/
theorem assign (op : AssignOp) (first : IsLaidOut inside level nest left leftText)
    (leftTight : Precedence.logicalOr ≤ level) (second : IsLaidOut greater other nest right rightText)
    (rightTight : Precedence.assignment ≤ other) :
    IsLaidOut greater Precedence.assignment nest (.assignment op left right)
      (leftText ++ ' ' :: (op.symbol.toList ++ ' ' :: rightText)) := by
  refine ⟨first.opens.append _, fun rest behind adjoins => ?_⟩
  obtain ⟨middle, rightBefore⟩ := second.before rest behind
    { adjoins with
      clear := fun none _ => adjoins.clear none (by decide)
      compares := fun ends => adjoins.compares (by
        have whole : EndsInWord (leftText ++ ' ' :: (op.symbol.toList ++ [' ']) ++ rightText) :=
          ends.append
        simpa using whole) }
  have marked := (rightBefore.spelled.assignOp op).space
  obtain ⟨glyphs, leftBefore⟩ := first.before _ (op.glyphs false ++ middle)
    { spelled := marked
      ends := (Lexeme.numberEnds_of_head (by decide)).1
      ordinary := op.ordinary rightBefore.ordinary
      shut := fun _ => op.argumentsEnd
      clear := fun _ le => absurd le (not_le_conditional leftTight)
      compares := fun _ less => by cases op <;> cases less }
  exact ⟨glyphs, {
    spelled := by simpa using leftBefore.spelled
    reads := leftBefore.reads.assign rightBefore.reads leftTight rightTight
    ordinary := leftBefore.ordinary
    shut := fun bare _ _ => leftBefore.shut (holdsBareGreater_front (by simp) bare) op.argumentsEnd
      fun le => absurd le (not_le_conditional leftTight)
    clear := fun bare clear => by
      have whole : holdsBareGreater none (leftText ++ ' ' :: (op.symbol.toList ++ [' ']) ++ rightText) =
          false := by
        simpa using bare
      have back := holdsBareGreater_back second.opens.noGreater whole
      exact leftBefore.clear (holdsBareGreater_front (by simp) bare)
        (op.greaterAhead bare (rightBefore.clear back clear))
    leaves := fun _ => leftBefore.leaves op.leavesType
    noType := fun _ => .inr (leftBefore.leaves op.leavesType) }⟩

/-- A text with something appended that a guess can see past. -/
private theorem append_before {added : List Char} {appended : List Glyph}
    (laid : IsLaidOut greater level nest left leftText) (tight : Precedence.postfixed ≤ level)
    (apart : added.head? ≠ some '=') (adjoins : Adjoins greater level leftText (added ++ rest) appended)
    (shut : argumentsEnd 0 behind = false → argumentsEnd 0 appended = false)
    (clear : greaterAhead 0 behind = false → greaterAhead 0 appended = false)
    (leaves : leavesType 0 behind = true → leavesType 0 appended = true)
    (reads : ∀ glyphs, ReadsAs level nest left glyphs appended →
      ReadsAs Precedence.postfixed deep value glyphs behind) :
    ∃ glyphs, LaidBefore Precedence.postfixed deep value (leftText ++ added) rest behind glyphs := by
  obtain ⟨glyphs, before⟩ := laid.before _ _ adjoins
  exact ⟨glyphs, {
    spelled := by simpa using before.spelled
    reads := reads glyphs before.reads
    ordinary := before.ordinary
    shut := fun bare shuts _ => before.shut (holdsBareGreater_front apart bare) (shut shuts)
      fun le => absurd le (not_le_conditional (Nat.le_trans (by decide) tight))
    clear := fun bare none => before.clear (holdsBareGreater_front apart bare) (clear none)
    leaves := fun does => before.leaves (leaves does)
    noType := fun loose => absurd loose (by decide) }⟩

theorem unaryBehind {op : UnaryOp} (laid : IsLaidOut greater level nest value text)
    (tight : Precedence.postfixed ≤ level) (behindOperand : op.followsOperand = true) :
    IsLaidOut greater Precedence.postfixed nest (.unary op value) (text ++ op.symbol.toList) := by
  refine ⟨laid.opens.append _, fun rest behind adjoins => ?_⟩
  have finished : op.mark.isFinished = true := by
    cases op <;> first | rfl | cases behindOperand
  obtain ⟨joint, marked⟩ := adjoins.spelled.finished op.mark finished
  have ordinary : Ordinary (⟨.punctuator op.mark, joint⟩ :: behind) := op.ordinary adjoins.ordinary
  have shut (none : argumentsEnd 0 behind = false) :
      argumentsEnd 0 (⟨.punctuator op.mark, joint⟩ :: behind) = false := op.argumentsEnd.trans none
  have noChoice : ¬ level ≤ Precedence.conditional := not_le_conditional (Nat.le_trans (by decide) tight)
  refine laid.append_before tight ?_ ?_ shut op.greaterAhead.trans (fun _ => ?_)
    fun _ reads => reads.behind behindOperand tight adjoins.ordinary.ne_nil
  all_goals cases op <;> cases behindOperand
  all_goals first
    | exact .mark marked (by decide) (by simp [UnaryOp.mark]) ordinary (fun none =>
        shut (adjoins.shut none)) fun _ le => absurd le noChoice
    | exact leavesType_other rfl rfl rfl
    | simp [UnaryOp.symbol]

theorem member {ident : String} (arrow : Bool) (plain : isPlainIdentifier ident = true)
    (laid : IsLaidOut greater level nest value text) (tight : Precedence.postfixed ≤ level) :
    IsLaidOut greater Precedence.postfixed nest (.member value arrow (.simpleName ident))
      (text ++ ((memberMark arrow).spelling.toList ++ ident.toList)) := by
  refine ⟨laid.opens.append _, fun rest behind adjoins => ?_⟩
  have compares := adjoins.compares (by
    rw [← List.append_assoc]
    exact (endsInWord_of_plain plain).append)
  have named := adjoins.spelled.identifier (isIdentifier_of_plain plain) adjoins.ends
  have stops : ∀ c ∈ (ident.toList ++ rest).head?,
      (memberMark arrow).growsWith c = false := by
    obtain ⟨first, more, spelled, starts⟩ := startsName_of_plain plain
    have noDigit := Lexeme.isDigit_eq_false_of_isNameStart starts
    have unlike (other : Char) (noStart : Lexeme.isNameStart other = false) : first ≠ other := by
      rintro rfl
      rw [noStart] at starts
      cases starts
    rw [spelled]
    rintro _ ⟨⟩
    cases arrow <;> simp [memberMark, Punctuator.growsWith, noDigit,
      unlike '.' (by decide), unlike '*' (by decide)]
  have marked := named.mark _ stops
  rw [← List.append_assoc] at marked
  refine laid.append_before tight ?_ {
    spelled := marked
    ends := by cases arrow <;> (rintro _ ⟨⟩; decide)
    ordinary := adjoins.ordinary.member
    shut := fun none => argumentsEnd_member.trans (adjoins.shut none)
    clear := fun _ le => absurd le (not_le_conditional (Nat.le_trans (by decide) tight))
    compares := fun _ less => by cases arrow <;> cases less } argumentsEnd_member.trans
    greaterAhead_member.trans (leavesType_member compares) fun _ reads => reads.member arrow tight adjoins.ordinary compares
  cases arrow <;> simp [memberMark, Punctuator.spelling]

theorem index (first : IsLaidOut greater level nest left leftText)
    (tight : Precedence.postfixed ≤ level) (second : IsLaidOut inside other nest right rightText) :
    IsLaidOut greater Precedence.postfixed (nest + 1) (.index left right)
      (leftText ++ '[' :: (rightText ++ [']'])) := by
  refine ⟨first.opens.append _, fun rest behind adjoins => ?_⟩
  obtain ⟨closed, close⟩ := adjoins.spelled.single .rightBracket ']' rfl rfl
  have closing : Ordinary (⟨.punctuator .rightBracket, closed⟩ :: behind) :=
    .plain rfl (by simp) adjoins.ordinary
  obtain ⟨middle, inner⟩ := second.before _ _
    (.closing close (by decide) (by simp) closing (lookOutside_closed rfl))
  obtain ⟨opened, opening⟩ := inner.spelled.single .leftBracket '[' rfl rfl
  have ordinary : Ordinary (⟨.punctuator .leftBracket, opened⟩ :: middle) := by
    refine .token rfl (fun _ => ?_) inner.ordinary
    obtain ⟨first, tail, rfl, _⟩ := inner.reads.starts
    simpa using inner.reads.starts.ne rfl
  obtain ⟨front, same, bracketed⟩ := inner.reads.front
  -- What stands in the brackets is hidden from a guess that starts before them.
  have adjoinsBracket : Adjoins greater level leftText ('[' :: (rightText ++ [']']) ++ rest)
      (⟨.punctuator .leftBracket, opened⟩ :: middle) := by
    refine .mark (by simpa using opening) (by decide) (by simp) ordinary (fun none => ?_) fun _ le => ?_
    · exact (lookOutside_past_group rfl rfl bracketed same).trans (adjoins.shut none)
    · exact absurd le (not_le_conditional (Nat.le_trans (by decide) tight))
  exact first.append_before tight (by simp) adjoinsBracket
    (lookOutside_past_group rfl rfl bracketed same).trans
    (lookOutside_past_group rfl rfl bracketed same).trans
    (lookOutside_past_group rfl rfl bracketed same).trans
    fun _ reads => reads.index tight inner.reads adjoins.ordinary.ne_nil

/-- The texts of the values as they stand in a list, and whether one of them holds a bare `>`. Each is
laid out in the knowledge whether a later one does. -/
inductive Items (nest : Nat) : List Expr → List String → Bool → Prop where
  | nil : Items nest [] [] false
  | cons {level : Nat} {value : Expr} {values : List Expr} {text : String} {texts : List String}
      {greater : Bool} (tight : Precedence.assignment ≤ level)
      (laid : IsLaidOut greater level nest value text.toList)
      (later : Items nest values texts greater) :
      Items nest (value :: values) (text :: texts) (greater || hasBareGreater text)

theorem list {values : List Expr} {texts : List String} {joint : Bool}
    (items : Items nest values texts greater)
    (close : Spelled (')' :: rest) (⟨.punctuator .rightParen, joint⟩ :: behind))
    (ordinary : Ordinary behind) :
    ∃ glyphs, Spelled ((", ".intercalate texts).toList ++ ')' :: rest) glyphs ∧
      ReadsItems nest (⟨.punctuator .rightParen, joint⟩ :: behind) values glyphs ∧ Ordinary glyphs ∧
      (greater = false → greaterAhead 0 glyphs = false) := by
  have closing : Ordinary (⟨.punctuator .rightParen, joint⟩ :: behind) := .plain rfl (by simp) ordinary
  have ends : greaterAhead 0 (⟨.punctuator .rightParen, joint⟩ :: behind) = false :=
    lookOutside_closed rfl
  induction items with
  | nil => exact ⟨_, by simpa using close, .nil, closing, fun _ => ends⟩
  | @cons _ _ _ text _ more tight laid items ih =>
    have clear {glyphs tail : List Glyph} (inner : holdsBareGreater none text.toList = false →
        greaterAhead 0 tail = false → greaterAhead 0 glyphs = false)
        (later : more = false → greaterAhead 0 tail = false)
        (bare : (more || hasBareGreater text) = false) : greaterAhead 0 glyphs = false := by
      rw [Bool.or_eq_false_iff] at bare
      exact inner bare.2 (later bare.1)
    cases items with
    | nil =>
      obtain ⟨glyphs, before⟩ := laid.before _ _
        (.closing close (by decide) (by simp) closing ends)
      exact ⟨glyphs, by simpa using before.spelled, .last before.reads tight, before.ordinary,
        clear before.clear fun _ => ends⟩
    | cons =>
      obtain ⟨later, spelled, reads, laterOrdinary, laterClear⟩ := ih
      have behindComma (bare) : greaterAhead 0 (⟨.punctuator .comma, false⟩ :: later) = false :=
        (greaterAhead_token rfl rfl (by simp) rfl).trans (laterClear bare)
      obtain ⟨glyphs, before⟩ := laid.before _ _ (.mark spelled.comma (by decide) (by simp)
        (.plain rfl (by simp) laterOrdinary)
        (fun bare => argumentsEnd_of_greaterAhead (behindComma bare)) fun bare _ => behindComma bare)
      refine ⟨glyphs, ?_, .more before.reads tight reads, before.ordinary,
        clear before.clear behindComma⟩
      simpa [String.intercalate_cons_cons] using before.spelled

theorem call {values : List Expr} {texts : List String}
    (laid : IsLaidOut greater level nest value text) (tight : Precedence.postfixed ≤ level)
    (items : Items nest values texts inside) :
    IsLaidOut greater Precedence.postfixed (nest + 1) (.call value (.ofList values))
      (text ++ '(' :: ((", ".intercalate texts).toList ++ [')'])) := by
  refine ⟨laid.opens.append _, fun rest behind adjoins => ?_⟩
  obtain ⟨closed, close⟩ := adjoins.spelled.single .rightParen ')' rfl rfl
  obtain ⟨middle, listed, listReads, inner, _⟩ := list items close adjoins.ordinary
  obtain ⟨opened, opening⟩ := listed.single .leftParen '(' rfl rfl
  obtain ⟨front, same, bracketed⟩ := listReads.front
  have adjoinsList : Adjoins greater level text
      ('(' :: ((", ".intercalate texts).toList ++ [')']) ++ rest)
      (⟨.punctuator .leftParen, opened⟩ :: middle) := by
    refine .mark (by simpa using opening) (by decide) (by simp) (.plain rfl (by simp) inner)
      (fun none => ?_) fun _ le => ?_
    · exact (lookOutside_past_group rfl rfl bracketed same).trans (adjoins.shut none)
    · exact absurd le (not_le_conditional (Nat.le_trans (by decide) tight))
  exact laid.append_before tight (by simp) adjoinsList
    (lookOutside_past_group rfl rfl bracketed same).trans
    (lookOutside_past_group rfl rfl bracketed same).trans
    (lookOutside_past_group rfl rfl bracketed same).trans
    fun _ reads => reads.call tight listReads adjoins.ordinary.ne_nil

/-- A conditional whose branches hold no bare `>`. No template arguments are closed behind its
condition, even if assignments stand in the branches. -/
theorem choice {test thenValue elseValue : Expr} {testText thenText elseText : List Char}
    {third : Nat} (first : IsLaidOut greater level nest test testText)
    (firstTight : Precedence.logicalOr ≤ level)
    (second : IsLaidOut inside other nest thenValue thenText) (secondTight : Precedence.logicalOr ≤ other)
    (final : IsLaidOut greater third nest elseValue elseText) (finalTight : Precedence.assignment ≤ third)
    (thenBare : holdsBareGreater none thenText = false)
    (elseBare : holdsBareGreater none elseText = false) :
    IsLaidOut greater Precedence.conditional nest (.conditional test thenValue elseValue)
      (testText ++ " ? ".toList ++ thenText ++ " : ".toList ++ elseText) := by
  refine ⟨by simpa using first.opens.append _, fun rest behind adjoins => ?_⟩
  obtain ⟨last, lastBefore⟩ := final.before rest behind
    { adjoins with
      clear := fun none _ => adjoins.clear none (Nat.le_refl _)
      compares := fun ends => adjoins.compares ends.append }
  have colon := (lastBefore.spelled.markThenSpace .colon).space
  have noChoice : ¬ other ≤ Precedence.conditional := not_le_conditional secondTight
  have branches : Ordinary (⟨.punctuator .colon, false⟩ :: last) :=
    .plain rfl (by simp) lastBefore.ordinary
  obtain ⟨middle, middleBefore⟩ := second.before _ _ (.mark colon (by decide) (by simp) branches
    (fun _ => argumentsEnd_ends rfl) fun _ le => absurd le noChoice)
  have question := (middleBefore.spelled.markThenSpace .question).space
  have clear (none : greaterAhead 0 behind = false) :
      greaterAhead 0 (⟨.punctuator .question, false⟩ :: middle) = false := by
    have atColon : greaterAhead 0 (⟨.punctuator .colon, false⟩ :: last) = false :=
      (greaterAhead_token rfl rfl (by simp) rfl).trans (lastBefore.clear elseBare none)
    exact (greaterAhead_token rfl rfl (by simp) rfl).trans (middleBefore.clear thenBare atColon)
  have shut (none : greaterAhead 0 behind = false) :
      argumentsEnd 0 (⟨.punctuator .question, false⟩ :: middle) = false :=
    argumentsEnd_of_greaterAhead (clear none)
  obtain ⟨glyphs, before⟩ := first.before _ _ (.mark question (by decide) (by simp)
    (.plain rfl (by simp) middleBefore.ordinary)
    (fun none => shut (adjoins.clear none (Nat.le_refl _)))
    fun _ le => absurd le (not_le_conditional firstTight))
  have front (bare : holdsBareGreater none (testText ++ " ? ".toList ++ thenText ++ " : ".toList ++
      elseText) = false) : holdsBareGreater none testText = false := by
    have whole : holdsBareGreater none (testText ++
        (" ? ".toList ++ (thenText ++ (" : ".toList ++ elseText)))) = false := by
      simpa using bare
    exact holdsBareGreater_front (by simp) whole
  have leaves : leavesType 0 (⟨.punctuator .question, false⟩ :: middle) = true :=
    leavesType_other rfl rfl rfl
  exact ⟨glyphs, {
    spelled := by simpa [Punctuator.spelling] using before.spelled
    reads := before.reads.choice middleBefore.reads lastBefore.reads firstTight finalTight
    ordinary := before.ordinary
    shut := fun bare _ none => before.shut (front bare) (shut (none (Nat.le_refl _)))
      fun le => absurd le (not_le_conditional firstTight)
    clear := fun bare none => before.clear (front bare) (clear none)
    leaves := fun _ => before.leaves leaves
    noType := fun _ => .inr (before.leaves leaves) }⟩

end IsLaidOut

end CppSyntax
