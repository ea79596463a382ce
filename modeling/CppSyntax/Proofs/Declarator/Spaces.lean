import CppSyntax.Proofs.Declarator.InsideOut

/-!
How close together a declarator is written. Its pointer operators, its name and its suffixes are laid
out in three manners: behind a type, behind a comma and inside parentheses. None of them lets two
tokens run into one.
-/

namespace CppSyntax

open Doc

/-- The core of a declarator starts with a bracket. -/
def opensBracket (c : Char) : Bool := c == '(' || c == '['

/-- The text of a core with its suffixes. -/
structure IsWrittenCore (nameless : Bool) (text : List Char) (kinds : List TokenKind) : Prop where
  spells : SpellsBefore endsDeclarator text kinds
  opens : (nameless = true ∧ text = []) ∨ OpensIn opensBracket text ∨
    (nameless = false ∧ OpensIn isWordChar text)

theorem DeclaratorDoc.standalone_apply (shape : DeclaratorDoc) (layout : Layout) :
    shape.standalone layout = shape.pointers layout ++
      (if endsWith isWordChar (shape.pointers layout) && startsWith isWordChar (shape.core layout)
        then " " else "") ++ shape.core layout :=
  rfl

theorem DeclaratorDoc.afterType_apply (shape : DeclaratorDoc) (layout : Layout) :
    shape.afterType layout = attached (shape.pointers layout) ++
      (if !(shape.core layout).isEmpty && (!(shape.nameless ||
        startsWith (· == '.') (shape.core layout)) || endsWith isWordChar (shape.pointers layout))
        then " " else "") ++ shape.core layout :=
  rfl

section

variable {pointers : Trees .pointerOperator} {shape : DeclaratorDoc} {layout : Layout}
  {kinds : List TokenKind}

theorem ends_of_endsDeclarator {text : List Char} (opens : OpensIn endsDeclarator text) :
    Lexeme.NameEnds text ∧ text.head? ≠ some '=' ∧ text.head? ≠ some '&' := by
  obtain ⟨c, tail, rfl, ends⟩ := opens
  refine ⟨OpensIn.nameEnds ⟨c, tail, rfl, endsToken_of_endsDeclarator c ends⟩, ?_, ?_⟩ <;>
    (rintro ⟨⟩; exact absurd ends (by decide))

theorem ends_of_opensBracket {text : List Char} (opens : OpensIn opensBracket text) :
    Lexeme.NameEnds text ∧ text.head? ≠ some '=' ∧ text.head? ≠ some '&' := by
  obtain ⟨c, tail, rfl, isBracket⟩ := opens
  simp only [opensBracket, Bool.or_eq_true, beq_iff_eq] at isBracket
  rcases isBracket with rfl | rfl <;>
    exact ⟨(Lexeme.numberEnds_of_head (by decide)).1, by simp, by simp⟩

theorem startsWith_of_opensIn {holds : Char → Bool} {text : String}
    (opens : OpensIn holds text.toList) : startsWith holds text = true := by
  obtain ⟨c, tail, same, isSort⟩ := opens
  rw [startsWith, same]
  exact isSort

/-- Pointers before a text that they do not run into. -/
theorem Trees.PointerRow.spellsBefore (row : pointers.PointerRow) {text : List Char}
    (spells : SpellsBefore endsDeclarator text kinds)
    (apart : ∀ rest, OpensIn endsDeclarator rest →
      (endsWith isWordChar (Trees.PointerRow.text pointers layout) = true → Lexeme.NameEnds (text ++ rest)) ∧
        (text ++ rest).head? ≠ some '=' ∧ (text ++ rest).head? ≠ some '&') :
    SpellsBefore endsDeclarator ((Trees.PointerRow.text pointers layout).toList ++ text)
      (pointers.kinds.flatten ++ kinds) := by
  intro rest glyphs opens spelled
  obtain ⟨back, behind, middle⟩ := spells rest glyphs opens spelled
  obtain ⟨ends, noAssign, noAmpersand⟩ := apart rest opens
  obtain ⟨front, before, whole⟩ := row.spelled layout ends noAssign noAmpersand middle
  exact ⟨front ++ back, before.append behind, by simpa using whole⟩

/-- What nothing runs into: a space, a bracket or what ends the declarator. -/
private theorem apart_of_calm {text : List Char} {some : Prop}
    (calm : text = [] ∨ OpensIn (· == ' ') text ∨ OpensIn opensBracket text) :
    ∀ rest, OpensIn endsDeclarator rest → (some → Lexeme.NameEnds (text ++ rest)) ∧
      (text ++ rest).head? ≠ Option.some '=' ∧ (text ++ rest).head? ≠ Option.some '&' := by
  intro rest opens
  rcases calm with rfl | ⟨c, tail, rfl, isSpace⟩ | bracket
  · have ends := ends_of_endsDeclarator opens
    exact ⟨fun _ => ends.1, ends.2⟩
  · obtain rfl : c = ' ' := beq_iff_eq.mp isSpace
    exact ⟨fun _ => (Lexeme.numberEnds_of_head (by decide)).1, by simp, by simp⟩
  · have ends := ends_of_opensBracket (bracket.append rest)
    exact ⟨fun _ => ends.1, ends.2⟩

/-- A space between pointers and a core. -/
private theorem IsWrittenCore.spaced {nameless : Bool} {text : List Char}
    (core : IsWrittenCore nameless text kinds) (row : pointers.PointerRow) :
    SpellsBefore endsDeclarator ((Trees.PointerRow.text pointers layout).toList ++ ' ' :: text)
      (pointers.kinds.flatten ++ kinds) :=
  row.spellsBefore core.spells.space (apart_of_calm (.inr (.inl ⟨' ', text, rfl, rfl⟩)))

theorem IsWrittenCore.standalone (row : pointers.PointerRow)
    (before : shape.pointers layout = Trees.PointerRow.text pointers layout)
    (core : IsWrittenCore shape.nameless (shape.core layout).toList kinds) :
    SpellsBefore endsDeclarator (shape.standalone layout).toList (pointers.kinds.flatten ++ kinds) := by
  rw [DeclaratorDoc.standalone_apply, before]
  split
  · simpa using core.spaced row
  · rename_i close
    have spells : SpellsBefore endsDeclarator
        ((Trees.PointerRow.text pointers layout).toList ++ (shape.core layout).toList)
        (pointers.kinds.flatten ++ kinds) := by
      rcases core.opens with ⟨_, none⟩ | bracket | ⟨_, name⟩
      · exact row.spellsBefore core.spells (apart_of_calm (.inl none))
      · exact row.spellsBefore core.spells (apart_of_calm (.inr (.inr bracket)))
      · refine row.spellsBefore core.spells fun rest _ => ⟨fun word => ?_, ?_⟩
        · rw [word, startsWith_of_opensIn name] at close
          exact absurd rfl close
        · obtain ⟨c, tail, same, isWord⟩ := name
          rw [same]
          constructor <;> (rintro ⟨⟩; exact absurd isWord (by decide))
    simpa using spells

private theorem attached_row (row : pointers.PointerRow) :
    DeclaratorDoc.attached (Trees.PointerRow.text pointers layout) = Trees.PointerRow.text pointers layout := by
  have noName : startsWith (fun c => isWordChar c || c == ':') (Trees.PointerRow.text pointers layout) =
      false := by
    rcases row.opens layout with rfl | ⟨c, tail, same, isMark⟩
    · rfl
    · rw [startsWith, same]
      simp only [Trees.PointerRow.opensPointer, Bool.or_eq_true, beq_iff_eq] at isMark
      rcases isMark with rfl | rfl <;> rfl
  rw [DeclaratorDoc.attached, noName]
  rfl

/-- Behind a type, a declarator starts with nothing that goes on with the type. -/
theorem IsWrittenCore.afterType (row : pointers.PointerRow)
    (before : shape.pointers layout = Trees.PointerRow.text pointers layout)
    (core : IsWrittenCore shape.nameless (shape.core layout).toList kinds) :
    SpellsBefore endsDeclarator (shape.afterType layout).toList (pointers.kinds.flatten ++ kinds) ∧
      ∀ rest, OpensIn endsDeclarator rest →
        OpensIn endsToken ((shape.afterType layout).toList ++ rest) := by
  have opens {text : List Char} (calm : text = [] ∨ OpensIn (· == ' ') text ∨ OpensIn opensBracket text)
      (rest : List Char) (ends : OpensIn endsDeclarator rest) :
      OpensIn endsToken ((Trees.PointerRow.text pointers layout).toList ++ text ++ rest) := by
    rcases row.opens layout with rfl | mark
    · rcases calm with rfl | space | bracket
      · exact ends.mono endsToken_of_endsDeclarator
      · exact (space.append rest).mono fun c same => by
          obtain rfl : c = ' ' := beq_iff_eq.mp same
          decide
      · exact (bracket.append rest).mono fun c same => by
          simp only [opensBracket, Bool.or_eq_true, beq_iff_eq] at same
          rcases same with rfl | rfl <;> decide
    · refine ((mark.append text).append rest).mono fun c same => ?_
      simp only [Trees.PointerRow.opensPointer, Bool.or_eq_true, beq_iff_eq] at same
      rcases same with rfl | rfl <;> decide
  rw [DeclaratorDoc.afterType_apply, before, attached_row row]
  split
  · have calm : OpensIn (· == ' ') (' ' :: (shape.core layout).toList) := ⟨' ', _, rfl, rfl⟩
    exact ⟨by simpa using core.spaced row, by simpa using opens (.inr (.inl calm))⟩
  · rename_i close
    have calm : (shape.core layout).toList = [] ∨ OpensIn (· == ' ') (shape.core layout).toList ∨
        OpensIn opensBracket (shape.core layout).toList := by
      rcases core.opens with ⟨_, none⟩ | bracket | ⟨named, c, tail, same, isWord⟩
      · exact .inl none
      · exact .inr (.inr bracket)
      · refine absurd ?_ close
        have some : (shape.core layout).isEmpty = false := by
          rw [String.isEmpty_eq_false_iff]
          rintro none
          rw [none] at same
          cases same
        have noDot : startsWith (· == '.') (shape.core layout) = false := by
          rw [startsWith, same]
          refine beq_eq_false_iff_ne.mpr ?_
          rintro rfl
          exact absurd isWord (by decide)
        rw [some, named, noDot]
        rfl
    have spells : SpellsBefore endsDeclarator
        ((Trees.PointerRow.text pointers layout).toList ++ (shape.core layout).toList)
        (pointers.kinds.flatten ++ kinds) := row.spellsBefore core.spells (apart_of_calm calm)
    exact ⟨by simpa using spells, by simpa using opens calm⟩

end

/-- A suffix stands before anything. -/
structure Tree.IsWrittenSuffix (suffix : Tree .declaratorSuffix) : Prop where
  spells : ∀ layout, SpellsBefore (fun _ => true) (suffix.drawing layout).toList suffix.kinds
  opens : ∀ layout, OpensIn opensBracket (suffix.drawing layout).toList

/-- A declarator stands before its end, behind a type and without one. -/
structure Tree.IsWrittenDeclarator (shape : Declarator) : Prop where
  standalone : ∀ layout,
    SpellsBefore endsDeclarator (shape.drawing.standalone layout).toList shape.kinds
  afterType : ∀ layout,
    SpellsBefore endsDeclarator (shape.drawing.afterType layout).toList shape.kinds
  apart : ∀ layout rest, OpensIn endsDeclarator rest →
    OpensIn endsToken ((shape.drawing.afterType layout).toList ++ rest)

theorem endsToken_of_opensBracket (c : Char) (opens : opensBracket c = true) : endsToken c = true := by
  simp only [opensBracket, Bool.or_eq_true, beq_iff_eq] at opens
  rcases opens with rfl | rfl <;> decide

namespace Tree

variable {pointers : Trees .pointerOperator} {core : Tree .declaratorCore}
  {suffixes : Trees .declaratorSuffix} {layout : Layout}

/-- The text of the suffixes of a declarator. -/
abbrev suffixText (suffixes : Trees .declaratorSuffix) (layout : Layout) : List Char :=
  (concat (suffixes.drawn.map (·.drawing)) layout).toList

theorem suffixes_spelled (each : ∀ suffix ∈ suffixes.toList, suffix.IsWrittenSuffix)
    (sort : Char → Bool) (layout : Layout) :
    SpellsBefore sort (suffixText suffixes layout) suffixes.kinds.flatten ∧
      (suffixText suffixes layout = [] ∨ OpensIn opensBracket (suffixText suffixes layout)) := by
  have joined : concat (suffixes.drawn.map (·.drawing)) layout =
      String.join (suffixes.drawn.map (·.drawing layout)) := by
    simp [concat, Function.comp_def]
  rw [suffixText, joined]
  refine ⟨suffixes.join_spells fun suffix member => (each suffix member).spells layout, ?_⟩
  cases suffixes with
  | nil => exact .inl rfl
  | cons suffix suffixes =>
    have opens := (List.forall_mem_cons.mp each).1.opens layout
    refine .inr ?_
    simpa [Trees.drawn, String.join_cons] using opens.append _

/-- A core with its suffixes can be written behind any pointer operators. -/
theorem declarator_written (row : pointers.PointerRow)
    (written : ∀ layout, IsWrittenCore (Render.isUnnamed core)
      ((core.drawing layout).toList ++ suffixText suffixes layout)
      (core.kinds ++ suffixes.kinds.flatten)) :
    (Tree.declarator pointers false core suffixes).IsWrittenDeclarator := by
  have text (layout : Layout) :
      ((Tree.declarator pointers false core suffixes).drawing.core layout).toList =
        (core.drawing layout).toList ++ suffixText suffixes layout := by
    show ((onlyIf false _ ++ core.drawing ++ concat _) layout).toList = _
    simp [onlyIf]
  have inner (layout : Layout) :
      IsWrittenCore (Tree.declarator pointers false core suffixes).drawing.nameless
        ((Tree.declarator pointers false core suffixes).drawing.core layout).toList
        (core.kinds ++ suffixes.kinds.flatten) := by
    have nameless : (Tree.declarator pointers false core suffixes).drawing.nameless =
        Render.isUnnamed core := Bool.and_true _
    rw [text, nameless]
    exact written layout
  have kinds : (Tree.declarator pointers false core suffixes).kinds =
      pointers.kinds.flatten ++ (core.kinds ++ suffixes.kinds.flatten) := List.append_assoc ..
  have before (layout : Layout) : (Tree.declarator pointers false core suffixes).drawing.pointers layout =
      Trees.PointerRow.text pointers layout := rfl
  refine ⟨fun layout => kinds ▸ (inner layout).standalone row (before layout), fun layout => ?_,
    fun layout => ((inner layout).afterType row (before layout)).2⟩
  exact kinds ▸ ((inner layout).afterType row (before layout)).1

theorem named_written {ident : String} (plain : isPlainIdentifier ident = true)
    (each : ∀ suffix ∈ suffixes.toList, suffix.IsWrittenSuffix) (layout : Layout) :
    IsWrittenCore false
      (((Tree.declaredName (.simpleName ident)).drawing layout).toList ++ suffixText suffixes layout)
      ((Tree.declaredName (.simpleName ident)).kinds ++ suffixes.kinds.flatten) := by
  obtain ⟨behind, calm⟩ := suffixes_spelled each endsDeclarator layout
  have name : (Tree.declaredName (.simpleName ident)).drawing layout = ident :=
    congrFun (drawing_simpleName ident) layout
  have kinds : (Tree.declaredName (.simpleName ident)).kinds = [.identifier ident] :=
    Punctuator.between_single .scope _
  rw [name, kinds]
  refine ⟨(SpellsBefore.identifier (isIdentifier_of_plain plain)).append behind fun rest opens => ?_, ?_⟩
  · rcases calm with none | bracket
    · rw [none]
      exact opens.mono endsToken_of_endsDeclarator
    · exact (bracket.append rest).mono endsToken_of_opensBracket
  · obtain ⟨first, more, spelled, _⟩ := startsName_of_plain plain
    have isWord := isWordChar_of_plain plain first (spelled ▸ List.mem_cons_self ..)
    exact .inr (.inr ⟨rfl, OpensIn.append ⟨first, more, spelled, isWord⟩ _⟩)

theorem unnamed_written (each : ∀ suffix ∈ suffixes.toList, suffix.IsWrittenSuffix) (layout : Layout) :
    IsWrittenCore true ((Tree.unnamed.drawing layout).toList ++ suffixText suffixes layout)
      (Tree.unnamed.kinds ++ suffixes.kinds.flatten) := by
  obtain ⟨behind, calm⟩ := suffixes_spelled each endsDeclarator layout
  refine ⟨behind, ?_⟩
  rcases calm with none | bracket
  · exact .inl ⟨rfl, none⟩
  · exact .inr (.inl bracket)

theorem nested_written {inner : Declarator} (written : inner.IsWrittenDeclarator)
    (each : ∀ suffix ∈ suffixes.toList, suffix.IsWrittenSuffix) (layout : Layout) :
    IsWrittenCore false
      (((Tree.nestedDeclarator inner).drawing layout).toList ++ suffixText suffixes layout)
      ((Tree.nestedDeclarator inner).kinds ++ suffixes.kinds.flatten) := by
  obtain ⟨behind, _⟩ := suffixes_spelled each endsDeclarator layout
  have enclosed : SpellsBefore (fun _ => true) _ (Tree.nestedDeclarator inner).kinds :=
    SpellsBefore.enclosed .leftParen .rightParen rfl rfl
      (written.standalone layout) ⟨')', [], rfl, rfl⟩
  have text : ((Tree.nestedDeclarator inner).drawing layout).toList =
      Punctuator.leftParen.spelling.toList ++
        ((inner.drawing.standalone layout).toList ++ Punctuator.rightParen.spelling.toList) := by
    show (inner.drawing.standalone.parenthesized layout).toList = _
    simp [Punctuator.spelling]
  rw [text]
  refine ⟨enclosed.append behind fun rest opens => opens.behind, .inr (.inl ⟨'(', _, rfl, rfl⟩)⟩

theorem arraySuffix_written {size : Part .expression} (bound : size.IsBound) :
    (Tree.arraySuffix size).IsWrittenSuffix := by
  have drawn (layout : Layout) : ((Tree.arraySuffix size).drawing layout).toList =
      '[' :: ((ifPresent (size.drawn.map (·.anyExpression)) layout).toList ++ [']']) := by
    show (("[" ++ ifPresent (size.drawn.map (·.anyExpression)) ++ "]" : Doc) layout).toList = _
    simp
  have inner (layout : Layout) : SpellsBefore endsToken
      (ifPresent (size.drawn.map (·.anyExpression)) layout).toList size.kinds.flatten := by
    cases bound with
    | absent => exact .nil
    | present whole => exact .literal whole
  refine ⟨fun layout => ?_, fun layout => ⟨'[', _, drawn layout, rfl⟩⟩
  rw [drawn]
  exact SpellsBefore.enclosed .leftBracket .rightBracket rfl rfl
    (inner layout) ⟨']', [], rfl, by decide⟩

/-- What is written of an ellipsis behind parameters. -/
def ellipsisText (variadic isFirst : Bool) : String :=
  if variadic then (if isFirst then "..." else ", ...") else ""

theorem ellipsis_spelled (variadic isFirst : Bool) (sort : Char → Bool) :
    SpellsBefore sort (ellipsisText variadic isFirst).toList
      (if variadic then ellipsisKinds isFirst else []) := by
  have dots : SpellsBefore sort Punctuator.ellipsis.spelling.toList [.punctuator .ellipsis] :=
    .finished rfl
  cases variadic with
  | false => exact .nil
  | true => cases isFirst with
    | true => exact dots
    | false => exact SpellsBefore.commaSpace.append dots fun rest opens => opens.behind

theorem functionSuffix_text (items : Trees .parameter) (variadic : Bool) (layout : Layout) :
    ((Tree.functionSuffix (.bareSignature items variadic)).drawing layout).toList =
      '(' :: (((", ".intercalate (items.drawn.map (·.drawing false layout))).toList ++
        (ellipsisText variadic items.kinds.isEmpty).toList) ++ [')']) := by
  have isEmpty : (items.drawn.map (·.drawing false)).isEmpty = items.kinds.isEmpty := by
    cases items <;> rfl
  show (Render.parameterList (items.drawn.map (·.drawing false)) variadic layout ++ "" ++ "" ++ "" ++
    "").toList = _
  have texts : (separated ", " (items.drawn.map (·.drawing false))) layout =
      ", ".intercalate (items.drawn.map (·.drawing false layout)) := by
    simp [separated, Function.comp_def]
  cases variadic <;>
    simp [Render.parameterList, texts, isEmpty, ellipsisText, onlyIf]

/-- Parameters before the end of their list, with an ellipsis behind them or without one. -/
theorem parameters_spelled {items : Trees .parameter} (variadic : Bool) (layout : Layout)
    (each : ∀ item ∈ items.toList,
      SpellsBefore endsDeclarator (item.drawing false layout).toList item.kinds) :
    SpellsBefore endsDeclarator
      ((", ".intercalate (items.drawn.map (·.drawing false layout))).toList ++
        (ellipsisText variadic items.kinds.isEmpty).toList)
      (Punctuator.comma.between items.kinds ++
        if variadic then ellipsisKinds items.kinds.isEmpty else []) := by
  have dots := ellipsis_spelled variadic items.kinds.isEmpty endsDeclarator
  cases items with
  | nil => exact dots
  | cons item items =>
    have row : SpellsBefore endsDeclarator
        (", ".intercalate ((Trees.cons item items).drawn.map (·.drawing false layout))).toList
        (Punctuator.comma.between (Trees.cons item items).kinds) :=
      (Trees.cons item items).between_spells .commaSpace ⟨',', [' '], rfl, rfl⟩ each
    refine row.append dots fun rest opens => ?_
    cases variadic with
    | false => exact opens
    | true =>
      have starts : OpensIn endsDeclarator ", ...".toList := ⟨',', _, rfl, rfl⟩
      exact starts.append rest

theorem functionSuffix_written {items : Trees .parameter} (variadic : Bool)
    (each : ∀ item ∈ items.toList, ∀ layout,
      SpellsBefore endsDeclarator (item.drawing false layout).toList item.kinds) :
    (Tree.functionSuffix (.bareSignature items variadic)).IsWrittenSuffix := by
  refine ⟨fun layout => ?_, fun layout => ⟨'(', _, functionSuffix_text items variadic layout, rfl⟩⟩
  have inner := parameters_spelled variadic layout fun item member => each item member layout
  have kinds : (Tree.functionSuffix (.bareSignature items variadic)).kinds =
      .punctuator .leftParen :: ((Punctuator.comma.between items.kinds ++
        if variadic then ellipsisKinds items.kinds.isEmpty else []) ++ [.punctuator .rightParen]) := by
    rw [List.append_assoc]
    rfl
  rw [functionSuffix_text, kinds]
  exact SpellsBefore.enclosed .leftParen .rightParen rfl rfl inner
    ⟨')', [], rfl, rfl⟩

theorem builtinText_isEmpty {words : List Keyword} (cv : Qualifiers) (nonempty : words ≠ []) :
    (IsWritten.builtinText cv words).isEmpty = false := by
  obtain ⟨word, more, front⟩ := exists_first_word cv nonempty
  rw [IsWritten.builtinText, front]
  cases more with
  | nil => cases word <;> decide
  | cons next more => simp [String.intercalate_cons_cons]

/-- A builtin type and a declarator behind it. -/
theorem afterSpecifiers_written {words : List Keyword} {shape : Declarator} (cv : Qualifiers)
    (nonempty : words ≠ []) (written : shape.IsWrittenDeclarator) (layout : Layout) :
    SpellsBefore endsDeclarator
      (DeclaratorDoc.afterSpecifiers (Tree.builtinSpecifiers cv words).drawing shape.drawing
        layout).toList
      ((Tree.builtinSpecifiers cv words).kinds ++ shape.kinds) := by
  have specs : (Tree.builtinSpecifiers cv words).drawing layout = IsWritten.builtinText cv words := by
    rw [← IsWritten.builtinType_drawing cv nonempty layout]
    rfl
  have text : DeclaratorDoc.afterSpecifiers (Tree.builtinSpecifiers cv words).drawing shape.drawing
      layout = IsWritten.builtinText cv words ++ shape.drawing.afterType layout := by
    rw [DeclaratorDoc.afterSpecifiers, specs, builtinText_isEmpty cv nonempty]
    rfl
  have type : SpellsBefore endsToken (IsWritten.builtinText cv words).toList
      ((cv.before words).map .keyword) :=
    fun rest glyphs opens spelled => IsWritten.words_spelled (cv.before words) opens.nameEnds spelled
  rw [text, kinds_builtinSpecifiers, String.toList_append]
  exact type.append (written.afterType layout) (written.apart layout)

theorem parameter_written {words : List Keyword} {shape : Declarator} (cv : Qualifiers)
    (nonempty : words ≠ []) (written : shape.IsWrittenDeclarator) (layout : Layout) :
    SpellsBefore endsDeclarator
      ((Tree.parameter (.builtinSpecifiers cv words) shape .absent).drawing false layout).toList
      (Tree.parameter (.builtinSpecifiers cv words) shape .absent).kinds := by
  have text : (Tree.parameter (.builtinSpecifiers cv words) shape .absent).drawing false layout =
      DeclaratorDoc.afterSpecifiers (Tree.builtinSpecifiers cv words).drawing shape.drawing layout :=
    String.append_empty
  rw [text]
  exact afterSpecifiers_written cv nonempty written layout

/-- What writing comes to for each part of a declarator. -/
def IsWrittenOut : {c : Category} → Tree c → Prop
  | .declarator, shape => shape.IsWrittenDeclarator
  | .declaratorSuffix, suffix => suffix.IsWrittenSuffix
  | .parameter, item => ∀ layout,
    SpellsBefore endsDeclarator (item.drawing false layout).toList item.kinds
  | _, _ => True

theorem InsideOut.isWrittenOut {c : Category} {tree : Tree c} {nest : Nat}
    (inside : InsideOut nest tree) : tree.IsWrittenOut := by
  induction inside with
  | named row plain each ih => exact declarator_written row (named_written plain ih)
  | abstract row each ih => exact declarator_written row (unnamed_written ih)
  | nested row some inner each innerOut ih => exact declarator_written row (nested_written innerOut ih)
  | array bound => exact arraySuffix_written bound
  | function variadic each ih => exact functionSuffix_written variadic ih
  | parameter cv builtin nonempty shaped ih => exact parameter_written cv nonempty ih

end Tree

end CppSyntax
