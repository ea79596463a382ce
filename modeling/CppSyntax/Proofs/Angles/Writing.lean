import CppSyntax.Proofs.Angles.Reading
import CppSyntax.Proofs.Declarator.Spaces

/-!
The texts of types with lists of template arguments. Closing brackets stand close together, and no
bracket runs into what stands beside it.
-/

namespace CppSyntax

open Render Doc

/-- Behind an opening bracket the character belongs to something else. -/
def opensArgument (c : Char) : Bool := c != '=' && c != '<'

/-- Laid out anywhere, the document is spelled by these tokens before characters of the sort, and an
opening bracket may stand before it. -/
structure Doc.Spells (drawn : Doc) (sort : Char → Bool) (kinds : List TokenKind) : Prop where
  spells : ∀ layout, SpellsBefore sort (drawn layout).toList kinds
  opens : ∀ layout, OpensIn opensArgument (drawn layout).toList

theorem opens_intercalate {sort : Char → Bool} {glue first : String} (more : List String)
    (opens : OpensIn sort first.toList) : OpensIn sort (glue.intercalate (first :: more)).toList := by
  cases more with
  | nil => simpa using opens
  | cons next more =>
    rw [String.intercalate_cons_cons, String.toList_append, String.toList_append, List.append_assoc]
    exact opens.append _

/-- What opens like a word opens no bracket. -/
theorem opensArgument_of_plain {ident : String} (plain : isPlainIdentifier ident = true) :
    OpensIn opensArgument ident.toList := by
  obtain ⟨first, more, spelled, starts⟩ := startsName_of_plain plain
  refine ⟨first, more, spelled, ?_⟩
  simp only [opensArgument, Bool.and_eq_true, bne_iff_ne]
  constructor <;> (rintro rfl; exact absurd starts (by decide))

namespace Tree

variable {arguments : Trees .templateArgument}

theorem plainSegment_spells {ident : String} (plain : isPlainIdentifier ident = true) :
    (Tree.plainSegment ident false).drawing.Spells endsToken [.identifier ident] := by
  have drawn (layout : Layout) : (Tree.plainSegment ident false).drawing layout = ident :=
    String.empty_append
  refine ⟨fun layout => ?_, fun layout => ?_⟩
  · rw [drawn]
    exact .identifier (isIdentifier_of_plain plain)
  · rw [drawn]
    exact opensArgument_of_plain plain

/-- A list of template arguments in its brackets. -/
theorem templateArguments_spelled (each : ∀ argument ∈ arguments.toList,
      argument.drawing.Spells endsDeclarator argument.kinds) (layout : Layout) :
    SpellsBefore endsToken (templateArguments (arguments.drawn.map (·.drawing)) layout).toList
      arguments.listKinds := by
  let inside : Layout := { layout with greaterFollows := false }
  let texts : String := ", ".intercalate (arguments.drawn.map (·.drawing inside))
  have text : (templateArguments (arguments.drawn.map (·.drawing)) layout).toList =
      Punctuator.less.spelling.toList ++ (texts.toList ++ Punctuator.greater.spelling.toList) := by
    simp [templateArguments, separated, texts, inside, Function.comp_def, Punctuator.spelling]
  have less : SpellsBefore opensArgument Punctuator.less.spelling.toList [.punctuator .less] := by
    refine .mark fun c opens => ?_
    simp only [opensArgument, Bool.and_eq_true, bne_iff_ne] at opens
    simp [Punctuator.growsWith, opens]
  have greater : SpellsBefore endsToken Punctuator.greater.spelling.toList [.punctuator .greater] := by
    refine .mark fun c ends => ?_
    have noAssign : c ≠ '=' := by
      rintro rfl
      exact absurd ends (by decide)
    simpa [Punctuator.growsWith] using noAssign
  have list : SpellsBefore endsDeclarator texts.toList (Punctuator.comma.between arguments.kinds) :=
    arguments.between_spells .commaSpace ⟨',', [' '], rfl, rfl⟩ fun argument member =>
      (each argument member).spells inside
  have close := list.append greater fun rest _ => ⟨'>', rest, rfl, rfl⟩
  rw [text]
  refine less.append close fun rest _ => ?_
  rw [List.append_assoc]
  cases arguments with
  | nil => exact ⟨'>', rest, rfl, rfl⟩
  | cons argument arguments =>
    exact (opens_intercalate _ ((List.forall_mem_cons.mp each).1.opens inside)).append _

theorem templateSegment_spells {ident : String} (plain : isPlainIdentifier ident = true)
    (each : ∀ argument ∈ arguments.toList, argument.drawing.Spells endsDeclarator argument.kinds) :
    (Tree.templateSegment ident arguments false).drawing.Spells endsToken
      (.identifier ident :: arguments.listKinds) := by
  have drawn (layout : Layout) : ((Tree.templateSegment ident arguments false).drawing layout).toList =
      ident.toList ++ (templateArguments (arguments.drawn.map (·.drawing)) layout).toList := by
    show ("" ++ (ident ++ templateArguments (arguments.drawn.map (·.drawing)) layout)).toList = _
    simp
  refine ⟨fun layout => ?_, fun layout => ?_⟩
  · rw [drawn]
    refine (SpellsBefore.identifier (isIdentifier_of_plain plain)).append
      (templateArguments_spelled each layout) fun rest _ => ?_
    have opens : OpensIn endsToken
        (templateArguments (arguments.drawn.map (·.drawing)) layout).toList :=
      ⟨'<', _, by simp [templateArguments]; rfl, rfl⟩
    exact opens.append rest
  · rw [drawn]
    exact (opensArgument_of_plain plain).append _

theorem qualifiedName_spells (isGlobal : Bool) {segment : Tree .segment} {segments : Trees .segment}
    (each : ∀ part ∈ (Trees.cons segment segments).toList, part.drawing.Spells endsToken part.kinds) :
    (Tree.qualifiedName isGlobal (.cons segment segments)).drawing.Spells endsToken
      (Tree.qualifiedName isGlobal (.cons segment segments)).kinds := by
  let parts : Trees .segment := .cons segment segments
  have drawn (layout : Layout) : ((Tree.qualifiedName isGlobal parts).drawing layout).toList =
      (if isGlobal then Punctuator.scope.spelling.toList else []) ++
        ("::".intercalate (parts.drawn.map (·.drawing layout))).toList := by
    show ((onlyIf isGlobal "::" ++ separated "::" (parts.drawn.map (·.drawing))) layout).toList = _
    cases isGlobal <;> simp [onlyIf, separated, Function.comp_def, Punctuator.spelling]
  have scope {sort : Char → Bool} : SpellsBefore sort Punctuator.scope.spelling.toList
      [.punctuator .scope] := .finished rfl
  have opens (layout : Layout) :
      OpensIn opensArgument ("::".intercalate (parts.drawn.map (·.drawing layout))).toList :=
    opens_intercalate _ ((List.forall_mem_cons.mp each).1.opens layout)
  have spells (layout : Layout) : SpellsBefore endsToken
      ("::".intercalate (parts.drawn.map (·.drawing layout))).toList
      (Punctuator.scope.between parts.kinds) :=
    parts.between_spells scope ⟨':', [':'], rfl, rfl⟩ fun part member => (each part member).spells layout
  refine ⟨fun layout => ?_, fun layout => ?_⟩
  · rw [drawn]
    cases isGlobal with
    | false => exact spells layout
    | true => exact scope.append (spells layout) fun rest _ => (opens layout).append rest
  · rw [drawn]
    cases isGlobal with
    | false => exact opens layout
    | true => exact ⟨':', _, rfl, rfl⟩

theorem opensArgument_of_word (word : Keyword) : OpensIn opensArgument word.spelling.toList := by
  cases word <;> exact ⟨_, _, rfl, by decide⟩

/-- A word that may be missing, with a space behind it. -/
theorem wordBefore_spells {drawn : Doc} {kinds : List TokenKind} (word : Keyword) (isThere : Bool)
    (inner : drawn.Spells endsToken kinds) :
    (onlyIf isThere (word.spelling ++ " ") ++ drawn).Spells endsToken
      ((if isThere then [.keyword word] else []) ++ kinds) := by
  cases isThere with
  | false =>
    have text : (onlyIf false (word.spelling ++ " ") ++ drawn : Doc) = drawn :=
      funext fun _ => String.empty_append
    rw [text]
    exact inner
  | true =>
    have text (layout : Layout) : ((onlyIf true (word.spelling ++ " ") ++ drawn) layout).toList =
        word.spelling.toList ++ ' ' :: (drawn layout).toList := by
      show (word.spelling ++ " " ++ drawn layout).toList = _
      simp
    refine ⟨fun layout => ?_, fun layout => ?_⟩
    · rw [text]
      exact (SpellsBefore.word word).beforeSpace (inner.spells layout)
    · rw [text]
      exact (opensArgument_of_word word).append _

/-- Qualifiers before what they qualify. -/
theorem qualified_spells {drawn : Doc} {kinds : List TokenKind} (cv : Qualifiers)
    (inner : drawn.Spells endsToken kinds) : (qualified cv drawn).Spells endsToken (cv.kinds ++ kinds) := by
  have row := wordBefore_spells .kwConst cv.isConst (wordBefore_spells .kwVolatile cv.isVolatile inner)
  have text : qualified cv drawn = onlyIf cv.isConst (Keyword.kwConst.spelling ++ " ") ++
      (onlyIf cv.isVolatile (Keyword.kwVolatile.spelling ++ " ") ++ drawn) :=
    funext fun _ => String.append_assoc ..
  have words : cv.kinds = (if cv.isConst then [.keyword .kwConst] else []) ++
      (if cv.isVolatile then [.keyword .kwVolatile] else []) := by
    obtain ⟨isConst, isVolatile⟩ := cv
    cases isConst <;> cases isVolatile <;> rfl
  rw [text, words, List.append_assoc]
  exact row

theorem builtinType_spells {words : List Keyword} (cv : Qualifiers) (nonempty : words ≠ []) :
    (Tree.builtinType cv (words.map Keyword.spelling)).drawing.Spells endsToken
      (Tree.builtinType cv (words.map Keyword.spelling)).kinds := by
  refine ⟨fun layout => ?_, fun layout => ?_⟩
  · rw [IsWritten.builtinType_drawing cv nonempty layout, kinds_builtinType]
    exact fun rest glyphs opens spelled =>
      IsWritten.words_spelled (cv.before words) opens.nameEnds spelled
  · rw [IsWritten.builtinType_drawing cv nonempty layout, IsWritten.builtinText]
    obtain ⟨word, more, front⟩ := exists_first_word cv nonempty
    rw [front]
    exact opens_intercalate _ (opensArgument_of_word word)

/-- A type with pointer operators attached to it. -/
theorem typeId_spells {spec : TypeSpecifier} {pointers : Trees .pointerOperator}
    (row : pointers.PointerRow) (inner : spec.drawing.Spells endsToken spec.kinds) :
    (Tree.typeId spec (.declarator pointers false .unnamed .nil)).drawing.doc.Spells endsDeclarator
      (Tree.typeId spec (.declarator pointers false .unnamed .nil)).kinds := by
  have shape : (Tree.declarator pointers false .unnamed .nil).IsWrittenDeclarator :=
    declarator_written row (unnamed_written nofun)
  have drawn (layout : Layout) :
      ((Tree.typeId spec (.declarator pointers false .unnamed .nil)).drawing.doc layout).toList =
        (spec.drawing layout).toList ++
          ((Tree.declarator pointers false .unnamed .nil).drawing.afterType layout).toList :=
    String.toList_append ..
  refine ⟨fun layout => ?_, fun layout => ?_⟩
  · rw [drawn]
    exact (inner.spells layout).append (shape.afterType layout) (shape.apart layout)
  · rw [drawn]
    exact (inner.opens layout).append _

theorem holdsBareGreater_of_not_mem {text : List Char} (none : '>' ∉ text) (previous : Option Char) :
    holdsBareGreater previous text = false := by
  induction text generalizing previous with
  | nil => rfl
  | cons c text ih =>
    obtain ⟨other, later⟩ := not_or.mp (mt List.mem_cons.mpr none)
    rw [holdsBareGreater, ih later, beq_eq_false_iff_ne.mpr (Ne.symm other)]
    rfl

theorem hasAngle_of_literal {text : String} (whole : isIntegerLiteral text = true) :
    hasAngle text = false := by
  have digits := isNumberChar_of_literal whole
  have noGreater : '>' ∉ text.toList := fun member => absurd (digits _ member) (by decide)
  have noLess : '<' ∉ text.toList := fun member => absurd (digits _ member) (by decide)
  rw [hasAngle, hasBareGreater, holdsBareGreater_of_not_mem noGreater]
  simpa using noLess

/-- A number among template arguments stands without parentheses. -/
theorem valueArgument_spells {text : String} (whole : isIntegerLiteral text = true) :
    (Tree.valueArgument (.literal ⟨.integer, text⟩)).drawing.Spells endsDeclarator
      [.integer text] := by
  have drawn (layout : Layout) :
      (Tree.valueArgument (.literal ⟨.integer, text⟩)).drawing layout = text := by
    show (if hasAngle text then _ else text) = text
    rw [hasAngle_of_literal whole]
    rfl
  refine ⟨fun layout => ?_, fun layout => ?_⟩
  · rw [drawn]
    exact (SpellsBefore.literal whole).mono endsToken_of_endsDeclarator
  · rw [drawn]
    have digits := isNumberChar_of_literal whole
    cases spelled : text.toList with
    | nil =>
      rw [isIntegerLiteral, spelled] at whole
      cases whole
    | cons c more =>
      have digit := digits c (spelled ▸ List.mem_cons_self ..)
      refine ⟨c, more, rfl, ?_⟩
      simp only [opensArgument, Bool.and_eq_true, bne_iff_ne]
      constructor <;> (rintro rfl; exact absurd digit (by decide))

/-- What writing comes to for each part of a type. -/
def IsWrittenAngled : {c : Category} → Tree c → Prop
  | .segment, part => part.drawing.Spells endsToken part.kinds
  | .name, target => target.drawing.Spells endsToken target.kinds
  | .templateArgument, argument => argument.drawing.Spells endsDeclarator argument.kinds
  | .typeId, target => target.drawing.doc.Spells endsDeclarator target.kinds
  | _, _ => True

theorem InAngles.isWrittenAngled {c : Category} {tree : Tree c} {nest : Nat}
    (angled : InAngles nest tree) : tree.IsWrittenAngled := by
  induction angled with
  | plain plain => exact plainSegment_spells plain
  | template plain each ih => exact templateSegment_spells plain ih
  | name isGlobal each ih => exact qualifiedName_spells isGlobal ih
  | value whole => exact valueArgument_spells whole
  | type inner ih => exact ih
  | named cv row inner ih => exact typeId_spells row (qualified_spells cv ih)
  | builtin cv row builtin nonempty => exact typeId_spells row (builtinType_spells cv nonempty)

end Tree

end CppSyntax
