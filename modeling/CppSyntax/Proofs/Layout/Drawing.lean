import CppSyntax.Proofs.Layout.Doc
import CppSyntax.Proofs.Session.LayoutFree
import CppSyntax.Render.Expression
import CppSyntax.Render.Statement
import Mathlib.Data.Option.Basic

/-!
What is drawn of a node differs only in its blanks if this is so of its parts. Two decisions read a text
again: an expression that would be taken for a declaration, and values that would be taken for a list of
parameters. Both see the same tokens in any layout.
-/

namespace CppSyntax

open Text

namespace Render

open Doc

section

variable {value left right : Drawn .expression} {values : List (Drawn .expression)}
  {part : Option (Drawn .expression)}

theorem valueArgument_steady (steady : value.Steady) : (valueArgument value).Steady false := by
  intro here there beside plain
  unfold valueArgument at plain ⊢
  have alike := Drawn.operand_steady Precedence.conditional steady here there beside
    (plain_of_bracketed plain)
  dsimp only
  rw [alike.hasAngle_eq]
  exact alike.bracketed _ _

theorem binary_steady {op : BinaryOp} (first : left.Steady) (second : right.Steady) :
    (binary op left right).Steady false := by
  intro here there beside plain
  unfold binary at plain ⊢
  dsimp only at plain ⊢
  obtain ⟨front, behind⟩ := plain_append plain
  have rightText := Drawn.operand_steady (op.precedence + 1) second here there beside behind
  rw [rightText.hasBareGreater_eq, beside.greaterFollows] at front ⊢
  have leftText := (Drawn.operand_steady op.precedence first).before _ here there beside
    (plain_of_bracketed (plain_append front).1)
  rw [leftText.endsWith_eq isSolid_isWordChar]
  exact ((leftText.bracketed _ _).append (.refl _)).append rightText

theorem assignment_steady {op : AssignOp} (first : left.Steady) (second : right.Steady) :
    (assignment op left right).Steady false := by
  unfold assignment
  grind

theorem unary_steady {op : UnaryOp} (steady : value.Steady) : (unary op value).Steady false := by
  intro here there beside plain
  unfold unary at plain ⊢
  split
  · rename_i postfixed
    rw [if_pos postfixed] at plain
    exact (Drawn.operand_steady _ steady here there beside (plain_append plain).1).append (.refl _)
  · rename_i prefixed
    rw [if_neg prefixed] at plain
    dsimp only at plain ⊢
    have alike := Drawn.operand_steady Precedence.unary steady here there beside (plain_append plain).2
    have starts : (fun c => canRepeat c && startsWith (· == c) (value.operand Precedence.unary here)) =
        fun c => canRepeat c && startsWith (· == c) (value.operand Precedence.unary there) := by
      funext c
      cases repeats : canRepeat c with
      | false => rfl
      | true =>
        have solid : isBlank c = false := by
          simp only [canRepeat, Bool.or_eq_true, beq_iff_eq] at repeats
          rcases repeats with (rfl | rfl) | rfl <;> decide
        rw [alike.startsWith_eq (.eq _ solid)]
    rw [starts]
    exact (Alike.refl _).append alike

theorem conditional_steady {test : Drawn .expression} (first : test.Steady) (second : left.Steady)
    (third : right.Steady) : (conditional test left right).Steady false := by
  unfold conditional
  grind

theorem fold_steady {op : BinaryOp} {before after : Option (Drawn .expression)}
    (first : ∀ inner ∈ before, inner.Steady) (second : ∀ inner ∈ after, inner.Steady) :
    (fold op before after).Steady false := by
  have front := Doc.Steady.present fun inner member =>
    ((Drawn.operand_steady Precedence.unary (first inner member)).append
      (.text (foldSymbol op))).append (.text " ")
  have behind := Doc.Steady.present fun inner member =>
    ((Doc.Steady.text (foldSymbol op)).append (.text " ")).append
      (Drawn.operand_steady Precedence.unary (second inner member))
  exact .parenthesized (.enclosed ((front.append (.text _)).append behind))

theorem call_steady (steady : value.Steady) (each : ∀ item ∈ values, item.Steady) :
    (call value values).Steady false := by
  unfold call
  grind

theorem index_steady (first : left.Steady) (second : right.Steady) :
    (index left right).Steady false := by
  unfold index
  grind

theorem member_steady {arrow : Bool} {target : Doc} (steady : value.Steady)
    (named : target.Steady false) : (member value arrow target).Steady false := by
  unfold member
  grind

theorem cast_steady {kind : CastKind} {target : TypeDoc} (typed : target.Steady)
    (steady : value.Steady) : (cast kind target value).Steady false := by
  unfold cast
  split
  · grind
  · split
    · exact typed.doc.append (Drawn.parenthesizedList_steady (List.forall_mem_singleton.mpr steady))
    · grind

theorem noexceptExpression_steady (steady : value.Steady) :
    (noexceptExpression value).Steady false := by
  unfold noexceptExpression
  grind

theorem deleteExpression_steady {isGlobal isArray : Bool} (steady : value.Steady) :
    (deleteExpression isGlobal isArray value).Steady false := by
  unfold deleteExpression
  grind

theorem spacedBefore_steady {part : Option Doc} (each : ∀ inner ∈ part, inner.Steady false) :
    (spacedBefore part).Steady false :=
  .present fun inner member => (Steady.text " ").append (each inner member)

theorem trailingResult_steady {result : Option TypeDoc} (each : ∀ target ∈ result, target.Steady) :
    (trailingResult result).Steady false :=
  .present fun target member =>
    (Steady.text " -> ").append (each target member).doc

theorem throwExpression_steady (each : ∀ inner ∈ part, inner.Steady) :
    (throwExpression part).Steady false :=
  (Steady.text "throw").append (spacedBefore_steady (Option.forall_mem_map.mpr fun inner member =>
    Drawn.operand_steady Precedence.assignment (each inner member)))

theorem newType_steady {target : Drawn .typeId} (typed : target.Steady)
    (each : ∀ inner ∈ part, inner.Steady) : (newType target part).Steady false := by
  have shaped : target.drawing.Steady := typed
  unfold newType
  split
  · rename_i size
    have bound := (Drawn.anyExpression_steady (each size rfl)).enclosed
    have attached : Doc.Steady false fun layout =>
        DeclaratorDoc.attached (target.drawing.shape.pointers layout) :=
      fun here there beside plain => DeclaratorDoc.attached_alike
        (shaped.shape.pointers here there beside (DeclaratorDoc.plain_of_attached plain))
    exact ((((shaped.spec.append attached).append (.text "[")).append bound).append (.text "]")).append
      shaped.shape.core
  · split
    · exact shaped.doc
    · exact shaped.doc.parenthesized

theorem newExpression_steady {isGlobal : Bool} {target : Drawn .typeId} {init : Option (Bool → Doc)}
    (placed : ∀ item ∈ values, item.Steady) (typed : target.Steady) (each : ∀ inner ∈ part, inner.Steady)
    (begun : ∀ drawn ∈ init, ∀ place, (drawn place).Steady false) :
    (newExpression isGlobal values target part init).Steady false := by
  have placement :
      (if values.isEmpty then Doc.empty else Drawn.parenthesizedList values ++ " ").Steady false := by
    split
    · exact .empty
    · exact (Drawn.parenthesizedList_steady placed).append (.text " ")
  have initial := Doc.Steady.present fun drawn member => begun drawn member false
  have typed := newType_steady typed each
  exact ((((Steady.onlyIf _ _).append (.text _)).append placement).append typed).append initial

theorem capture_steady {ident : String} {pack : Bool} (each : ∀ inner ∈ part, inner.Steady) :
    (capture ident part pack).Steady false :=
  ((Steady.text ident).append (.onlyIf _ _)).append <| .present fun inner member =>
    (Steady.text " = ").append (Drawn.operand_steady Precedence.assignment (each inner member))

theorem lambda_steady {captures : List Doc} {parameters exception : Option Doc}
    {isMutable isConstexpr : Bool} {result : Option TypeDoc} {body : Drawn .block}
    (captured : ∀ doc ∈ captures, doc.Steady false) (listed : ∀ doc ∈ parameters, doc.Steady false)
    (excepted : ∀ doc ∈ exception, doc.Steady false) (returned : ∀ target ∈ result, target.Steady)
    (inside : body.Steady) :
    (lambda captures parameters isMutable isConstexpr exception result body).Steady false := by
  have block : (if isEmptyBlock body.tree then Doc.text " \x7b\x7d"
      else " " ++ body.drawing.enclosed).Steady false := by
    split
    · exact .text _
    · exact (Steady.text " ").append (.enclosed inside)
  have introducer : ("[" ++ separated ", " captures ++ "]" ++ ifPresent parameters).Steady false :=
    (((Steady.text _).append (.separated captured)).append (.text _)).append (.ifPresent listed)
  exact ((((introducer.append (.onlyIf _ _)).append (.onlyIf _ _)).append
    (spacedBefore_steady excepted)).append (trailingResult_steady returned)).append block

end

section

variable {part : Option (Drawn .expression)} {specs title sig : Doc} {shape : DeclaratorDoc}
  {items : List Doc} {exception : Option Doc} {result : Option TypeDoc}
  {pointers : List (Drawn .pointerOperator)}

theorem segment_steady {marked : Bool} (spelled : title.Steady false) :
    (segment marked title).Steady false :=
  (Steady.onlyIf _ _).append spelled

theorem templateArguments_steady (each : ∀ doc ∈ items, doc.Steady false) :
    (templateArguments items).Steady false :=
  ((Steady.text "<").append (.enclosed (.separated each))).append (.text ">")

theorem operatorName_steady (symbol : String) : (operatorName symbol).Steady false :=
  ((Steady.text "operator").append (.onlyIf _ _)).append (.text symbol)

theorem qualifiedName_steady {isGlobal : Bool} (each : ∀ doc ∈ items, doc.Steady false) :
    (qualifiedName isGlobal items).Steady false :=
  (Steady.onlyIf _ _).append (.separated each)

theorem qualified_steady {cv : Qualifiers} {type : Doc} (steady : type.Steady false) :
    (qualified cv type).Steady false :=
  ((Steady.onlyIf _ _).append (.onlyIf _ _)).append steady

theorem trailingQualifiers_steady (cv : Qualifiers) : (trailingQualifiers cv).Steady false :=
  (Steady.onlyIf _ _).append (.onlyIf _ _)

theorem specifiers_steady {attributes alignments : List String} {modifiers : List Modifier}
    {type : Option Doc} (each : ∀ doc ∈ type, doc.Steady false) :
    (specifiers attributes alignments modifiers type).Steady false := by
  intro here there beside
  have same (texts : List String) : List.Forall₂ (Respaced false) texts texts :=
    List.forall₂_same.mpr fun text _ => .refl text
  have named : List.Forall₂ (Respaced false) (type.map (· here)).toList (type.map (· there)).toList := by
    cases type with
    | none => exact .nil
    | some doc => exact .cons (each doc rfl here there beside) .nil
  exact Steady.intercalate " " (List.rel_append (same _) named)

theorem pointerOperators_steady (each : ∀ operator ∈ pointers, operator.Steady) :
    (pointerOperators pointers).Steady false := by
  intro here there beside
  unfold pointerOperators
  suffices general : ∀ content other : String, Respaced false content other →
      Respaced false
        (pointers.foldl (fun content operator =>
          content ++ (if startsWithName operator.tree && endsWith isWordChar content then " " else "") ++
            operator.drawing here) content)
        (pointers.foldl (fun content operator =>
          content ++ (if startsWithName operator.tree && endsWith isWordChar content then " " else "") ++
            operator.drawing there) other) from general "" "" (.refl _)
  induction pointers with
  | nil => exact fun _ _ same => same
  | cons operator rest ih =>
    obtain ⟨first, others⟩ := List.forall_mem_cons.mp each
    intro content other same
    refine ih others _ _ (.append (.andThen same fun alike => ?_) (first here there beside))
    rw [alike.endsWith_eq isSolid_isWordChar]
    exact .refl _

theorem declarator_steady {pack : Bool} {core : Drawn .declaratorCore}
    (pointed : ∀ operator ∈ pointers, operator.Steady) (named : core.Steady)
    (each : ∀ doc ∈ items, doc.Steady false) : (declarator pointers pack core items).Steady where
  pointers := pointerOperators_steady pointed
  core := ((Steady.onlyIf _ _).append named).append (.concat each)

theorem arraySuffix_steady (each : ∀ inner ∈ part, inner.Steady) : (arraySuffix part).Steady false :=
  ((Steady.text "[").append (.present fun inner member =>
    Drawn.anyExpression_steady (each inner member))).append (.text "]")

theorem fallback_steady {value : Drawn .expression} {inTemplate : Bool} (steady : value.Steady) :
    Doc.Steady false fun layout =>
      if inTemplate && hasAngle (value.operand Precedence.assignment layout) then
        " = (" ++ value.operand Precedence.assignment layout ++ ")"
      else " = " ++ value.operand Precedence.assignment layout := by
  intro here there beside plain
  have inside : isPlain (value.operand Precedence.assignment here).toList = true := by
    dsimp only at plain
    split at plain
    · exact (plain_append (plain_append plain).1).2
    · exact (plain_append plain).2
  have alike := Drawn.operand_steady Precedence.assignment steady here there beside inside
  dsimp only
  rw [alike.hasAngle_eq]
  split
  · exact ((Alike.refl _).append alike).append (.refl _)
  · exact (Alike.refl _).append alike

theorem parameter_steady {inTemplate : Bool} (before : specs.Steady false) (steady : shape.Steady)
    (each : ∀ inner ∈ part, inner.Steady) : (parameter specs shape part inTemplate).Steady false :=
  (steady.afterSpecifiers before).append
    (.present fun inner member => fallback_steady (each inner member))

theorem parameterList_steady {isVariadic : Bool} (each : ∀ doc ∈ items, doc.Steady false) :
    (parameterList items isVariadic).Steady false :=
  .parenthesized ((Steady.separated each).append (.onlyIf _ _))

theorem signature_steady {parameters : Doc} {cv : Qualifiers} {reference : Option ReferenceQualifier}
    (listed : parameters.Steady false) (excepted : ∀ doc ∈ exception, doc.Steady false)
    (returned : ∀ target ∈ result, target.Steady) :
    (signature parameters cv reference exception result).Steady false :=
  (((listed.append (trailingQualifiers_steady cv)).append (.text _)).append
    (spacedBefore_steady excepted)).append (trailingResult_steady returned)

theorem noexceptSpec_steady (each : ∀ inner ∈ part, inner.Steady) : (noexceptSpec part).Steady false :=
  (Steady.text "noexcept").append (.present fun inner member =>
    (Drawn.anyExpression_steady (each inner member)).parenthesized)

theorem throwSpec_steady {types : List TypeDoc} (each : ∀ target ∈ types, target.Steady) :
    (throwSpec types).Steady false :=
  (Steady.text "throw").append (.parenthesized (.separated (List.forall_mem_map.mpr fun target member =>
    (each target member).doc)))

end

section

variable {value : Drawn .expression} {values : List (Drawn .expression)}
  {part : Option (Drawn .expression)} {shape : DeclaratorDoc} {specs title sig : Doc}
  {items : List Doc} {inner : Drawn .declaration} {members : List (Drawn .declaration)}
  {closing : List String}

theorem assignInit_steady (steady : value.Steady) : (assignInit value).Steady false :=
  (Steady.text " = ").append (Drawn.operand_steady Precedence.assignment steady)

/-- A list in parentheses is plain if it is plain with its first item in parentheses of its own. -/
theorem plain_of_guarded {first : String} {rest : List String}
    (plain : isPlain ("(" ++ ", ".intercalate (("(" ++ first ++ ")") :: rest) ++ ")").toList = true) :
    isPlain ("(" ++ ", ".intercalate (first :: rest) ++ ")").toList = true := by
  have opening : "(".toList = ['('] := by decide
  have closing : ")".toList = [')'] := by decide
  have comma : ", ".toList = [',', ' '] := by decide
  obtain ⟨later, spelled, apart⟩ : ∃ later : List Char,
      (∀ item, (", ".intercalate (item :: rest)).toList = item.toList ++ later) ∧
        ((later ++ [')']).head?.any fun d => d == '/' || d == '*') = false := by
    cases rest with
    | nil => exact ⟨[], fun item => by simp, rfl⟩
    | cons second rest =>
      refine ⟨", ".toList ++ (", ".intercalate (second :: rest)).toList, fun item => ?_, ?_⟩
      · rw [String.intercalate_cons_cons, String.toList_append, String.toList_append, List.append_assoc]
      · rw [comma]
        rfl
  simp only [String.toList_append, spelled, opening, closing, List.append_assoc,
    List.cons_append] at plain ⊢
  have inside : isPlain ('(' :: first.toList ++ ')' :: (later ++ [')'])) = true :=
    isPlain_tail plain
  obtain ⟨front, behind⟩ := isPlain_append inside
  show isPlain ('(' :: first.toList ++ (later ++ [')'])) = true
  exact isPlain_append_of front (isPlain_tail behind) apart

/-- A list in parentheses, of which the first item may have parentheses of its own. -/
theorem parenInit_cons (first : Drawn .expression) (rest : List (Drawn .expression))
    (afterDeclarator : Bool) (layout : Layout) :
    parenInit (first :: rest) afterDeclarator layout =
      if afterDeclarator &&
          readsAsParameterList (Drawn.parenthesizedList (first :: rest) layout) layout.typeNames then
        "(" ++ ", ".intercalate
          (("(" ++ (first.operand Precedence.assignment).before (Drawn.listTexts layout rest).2 layout ++
            ")") :: (Drawn.listTexts layout rest).1) ++ ")"
      else Drawn.parenthesizedList (first :: rest) layout :=
  rfl

theorem parenInit_steady {afterDeclarator : Bool} (each : ∀ item ∈ values, item.Steady) :
    (parenInit values afterDeclarator).Steady false := by
  intro here there beside plain
  cases values with
  | nil => exact .refl _
  | cons first rest =>
    rw [parenInit_cons] at plain ⊢
    have whole : isPlain ((Drawn.parenthesizedList (first :: rest)) here).toList = true := by
      split at plain
      · exact plain_of_guarded plain
      · exact plain
    have content := Drawn.parenthesizedList_steady each here there beside whole
    have opens (layout : Layout) :
        (Drawn.parenthesizedList (first :: rest) layout).toList.head? = some '(' := by
      have opening : "(".toList = ['('] := by decide
      rw [Drawn.parenthesizedList, parenthesized_apply, String.toList_append, String.toList_append,
        opening]
      rfl
    have reads := readsAsParameterList_of_glyphs (Token.glyphsOf_of_alike whole content) there.typeNames
      (opens here) (opens there)
    rw [beside.typeNames, reads] at plain ⊢
    rw [parenInit_cons]
    split at plain
    · rename_i guarded
      obtain ⟨_, alikes⟩ := Drawn.listTexts_alike each beside fun text member =>
        Drawn.plain_of_mem (plain_append (plain_append whole).1).2 member
      obtain ⟨alike, others⟩ := List.forall₂_cons.mp alikes
      have opening : Alike false "(" "(" := .refl _
      have bracketed := (opening.append alike).append (.refl ")")
      have items := Steady.intercalate ", "
        ((List.Forall₂.cons bracketed others).imp fun _ _ => Respaced.of_alike)
      rw [if_pos guarded, if_pos guarded]
      exact (((Respaced.refl "(").append items).append (.refl ")")) plain
    · rename_i bare
      rw [if_neg bare, if_neg bare]
      exact content

/-- In either layout a colon stands between blanks. -/
theorem colon_alike {head other : String} (alike : Alike false head other) :
    Alike (endsBlank false head.toList) (if endsWith (· == ' ') head then ": " else " : ")
      (if endsWith (· == ' ') other then ": " else " : ") := by
  have unspaced {text : String} (unblank : endsBlank false text.toList = false) :
      endsWith (· == ' ') text = false := by
    rw [endsBlank, ← any_getLast?_eq] at unblank
    unfold endsWith
    cases last : text.toList.getLast? with
    | none => rfl
    | some c =>
      rw [last] at unblank
      refine beq_false_of_ne ?_
      rintro rfl
      cases unblank
  cases ended : endsBlank false head.toList with
  | false =>
    rw [unspaced ended, unspaced (alike.endsBlank_eq ▸ ended)]
    exact .refl _
  | true =>
    have either : Alike true ": " " : " := by
      unfold Alike
      decide
    split <;> split
    · exact .refl _
    · exact either
    · exact either.symm
    · exact .refl _

theorem initDeclarator_steady {part : Option (Drawn .expression)} {init : Option (Bool → Doc)}
    {leading : Option Doc} (steady : shape.Steady) (each : ∀ inner ∈ part, inner.Steady)
    (begun : ∀ drawn ∈ init, ∀ place, (drawn place).Steady false)
    (before : ∀ doc ∈ leading, doc.Steady false) :
    (initDeclarator shape part init leading).Steady false := by
  let head : Doc := match leading with
    | some specs => shape.afterSpecifiers specs
    | none => ", " ++ shape.standalone
  have headed : head.Steady false := by
    cases leading with
    | none => exact (Steady.text ", ").append steady.standalone
    | some specs => exact steady.afterSpecifiers (before specs rfl)
  have initial : (ifPresent (init.map (· true))).Steady false :=
    .present fun drawn member => begun drawn member true
  have width : Doc.Steady false fun layout => head layout ++ ifPresent (part.map
      ((if endsWith (· == ' ') (head layout) then ": " else " : ") ++
        ·.operand Precedence.conditional)) layout := by
    intro here there beside plain
    cases part with
    | none => exact headed.append .empty here there beside plain
    | some inner =>
      obtain ⟨front, behind⟩ := plain_append plain
      have alike := headed here there beside front
      have value := Drawn.operand_steady Precedence.conditional (each inner rfl) here there beside
        (plain_append behind).2
      exact alike.followed ((colon_alike alike).append value)
  cases leading <;> exact width.append initial

theorem completed_steady (steady : inner.Steady) : (completed inner).Steady false :=
  Steady.append steady (.text _)

theorem declarationLine_spaced (steady : inner.Steady) : (declarationLine inner).Spaced true := by
  obtain ⟨tree, drawing⟩ := inner
  cases tree with
  | declaration place form =>
    refine .append (.commentLines _) ?_
    have usual := Spaced.margin.steady.append (completed_steady steady)
    cases form
    case directive => exact .line (.behind steady)
    case accessLabel => exact .line ((Spaced.margin.shallower.steady.append steady).append (.trailing _))
    all_goals exact .line (usual.append (.trailing _))

theorem declarationGap_spaced (declaration : Declaration) :
    (Doc.text (declarationGap declaration)).Spaced true := by
  cases declaration with
  | declaration place form => exact .gap _

theorem declarationLines_spaced (each : ∀ member ∈ members, member.Steady) :
    (declarationLines members).Spaced true := by
  cases members with
  | nil => exact .empty
  | cons first rest =>
    obtain ⟨head, others⟩ := List.forall_mem_cons.mp each
    refine .append (declarationLine_spaced head) (.concat ?_)
    refine List.forall_mem_map.mpr fun member among => ?_
    exact (declarationGap_spaced member.tree).append (declarationLine_spaced (others member among))

theorem bodyLines_spaced (each : ∀ member ∈ members, member.Steady) :
    (declarationLines members ++ commentLines closing).Spaced true :=
  (declarationLines_spaced each).append (.commentLines closing)

theorem innerDeclaration_steady (steady : inner.Steady) : (innerDeclaration inner).Steady false := by
  obtain ⟨tree, drawing⟩ := inner
  cases tree with
  | declaration place form => exact (completed_steady steady).append (.trailing _)

theorem namespaceBlock_steady {path : List String} {isInline : Bool}
    (each : ∀ member ∈ members, member.Steady) :
    (namespaceBlock path isInline members closing).Steady false :=
  ((((Steady.onlyIf _ _).append (.text _)).append (.onlyIf _ _)).append .beforeBrace).append
    (.braced (bodyLines_spaced each))

theorem linkageBlock_steady {abi : String} (each : ∀ member ∈ members, member.Steady) :
    (linkageBlock abi members).Steady false :=
  (((Steady.text _).append (.text abi)).append .beforeBrace).append
    (.braced (declarationLines_spaced each))

theorem linkageSingle_steady {abi : String} (steady : inner.Steady) :
    (linkageSingle abi inner).Steady false :=
  (((Steady.text _).append (.text abi)).append (.text _)).append (innerDeclaration_steady steady)

theorem base_steady {access : Option Access} {isVirtual pack : Bool} (named : title.Steady false) :
    (base access isVirtual title pack).Steady false :=
  (((Steady.present fun _ _ => .text _).append (.onlyIf _ _)).append named).append (.onlyIf _ _)

theorem behindColon_steady (each : ∀ doc ∈ items, doc.Steady false) :
    (behindColon items).Steady false := by
  unfold behindColon
  split
  · exact .empty
  · exact (Steady.text _).append (.separated each)

theorem classSpecifier_steady {key : ClassKey} {attributes alignments : List String} {named : Option Doc}
    {isFinal : Bool} (titled : ∀ doc ∈ named, doc.Steady false) (based : ∀ doc ∈ items, doc.Steady false)
    (each : ∀ member ∈ members, member.Steady) :
    (classSpecifier key attributes alignments named isFinal items members closing).Steady false := by
  have spellings (texts : List String) (spelled : String → String) :
      (concat (texts.map fun content => Doc.text (spelled content))).Steady false :=
    .concat (List.forall_mem_map.mpr fun _ _ => .text _)
  exact (((((((Steady.text _).append (spellings attributes _)).append (spellings alignments _)).append
    (spacedBefore_steady titled)).append (.onlyIf _ _)).append (behindColon_steady based)).append
    .beforeBrace).append (.braced (bodyLines_spaced each).deeper)

theorem enumHead_steady {key : Option ClassKey} {named underlying : Option Doc}
    (titled : ∀ doc ∈ named, doc.Steady false) (based : ∀ doc ∈ underlying, doc.Steady false) :
    (enumHead key named underlying).Steady false :=
  (((Steady.text _).append (spacedBefore_steady (Option.forall_mem_map.mpr fun _ _ => .text _))).append
    (spacedBefore_steady titled)).append (.present fun doc member =>
      (Steady.text " : ").append (based doc member))

theorem enumeratorLine_spaced {item : Drawn .enumerator} {isLast : Bool} (steady : item.Steady) :
    (enumeratorLine item isLast).Spaced true := by
  obtain ⟨tree, drawing⟩ := item
  cases tree with
  | enumerator ident value place =>
    have front := ((Spaced.commentLines place.leadingComments).append .margin).steady
    exact .line (((front.append steady).append (.onlyIf _ _)).append (.trailing _))

theorem enumeratorGap_spaced (isFirst : Bool) (item : Tree .enumerator) :
    (Doc.text (if isFirst then "" else enumeratorGap item)).Spaced true := by
  cases item with
  | enumerator ident value place =>
    split
    · exact .empty
    · exact .gap _

theorem enumeratorLines_spaced {enumerators : List (Drawn .enumerator)} {isFirst : Bool}
    (each : ∀ item ∈ enumerators, item.Steady) : (enumeratorLines isFirst enumerators).Spaced true := by
  induction enumerators generalizing isFirst with
  | nil => exact .empty
  | cons item rest ih =>
    obtain ⟨first, others⟩ := List.forall_mem_cons.mp each
    exact ((enumeratorGap_spaced isFirst item.tree).append (enumeratorLine_spaced first)).append
      (ih others)

theorem enumSpecifier_steady {key : Option ClassKey} {named underlying : Option Doc}
    {enumerators : List (Drawn .enumerator)} (titled : ∀ doc ∈ named, doc.Steady false)
    (based : ∀ doc ∈ underlying, doc.Steady false) (each : ∀ item ∈ enumerators, item.Steady) :
    (enumSpecifier key named underlying enumerators).Steady false :=
  ((enumHead_steady titled based).append .beforeBrace).append
    (.braced (enumeratorLines_spaced each).deeper)

theorem typeParameter_steady {key : TypeParameterKey} {pack : Bool} {ident : Option String}
    {fallback : Option Doc} (each : ∀ doc ∈ fallback, doc.Steady false) :
    (typeParameter key pack ident fallback).Steady false :=
  (((Steady.text _).append (.onlyIf _ _)).append
    (spacedBefore_steady (Option.forall_mem_map.mpr fun _ _ => .text _))).append
      (.present fun doc member => (Steady.text " = ").append (each doc member))

theorem templateHeader_steady (each : ∀ doc ∈ items, doc.Steady false) :
    (templateHeader items).Steady false :=
  ((Steady.text _).append (.separated each)).append (.text _)

theorem template_steady {isInstantiation : Bool} (each : ∀ doc ∈ items, doc.Steady false)
    (steady : inner.Steady) : (template items isInstantiation inner).Steady false := by
  unfold template
  split
  · exact (Steady.text _).append (innerDeclaration_steady steady)
  · obtain ⟨tree, drawing⟩ := inner
    cases tree with
    | declaration place form =>
      have header := Spaced.line (templateHeader_steady each)
      exact ((header.append (.commentLines _)).append .margin).steady.append
        (innerDeclaration_steady steady)

theorem functionResult_steady {pointers : Doc} (before : specs.Steady false)
    (pointed : pointers.Steady false) : (functionResult specs pointers).Steady false := by
  intro here there beside plain
  unfold functionResult at plain ⊢
  dsimp only at plain ⊢
  have inside : isPlain (specs here).toList = true := by
    split at plain
    · rename_i none
      rw [String.isEmpty_iff.mp none]
      rfl
    · exact (plain_append (plain_append plain).1).1
  have alike := before here there beside inside
  rw [alike.isEmpty_eq] at plain ⊢
  split at plain
  · rename_i none
    rw [if_pos none, if_pos none]
    exact pointed here there beside plain
  · rename_i some
    rw [if_neg some, if_neg some]
    have attached := DeclaratorDoc.plain_of_attached (plain_append (plain_append plain).1).2
    have pointers := DeclaratorDoc.attached_alike (pointed here there beside attached)
    exact (alike.append pointers).append (.refl _)

theorem memberInit_steady {init : Bool → Doc} {pack : Bool} (named : title.Steady false)
    (begun : ∀ place, (init place).Steady false) : (memberInit title init pack).Steady false :=
  (named.append (begun false)).append (.onlyIf _ _)

theorem functionEnd_steady {body : Drawn .functionBody} (each : ∀ doc ∈ items, doc.Steady false)
    (inside : body.Steady) : (functionEnd items body).Steady false := by
  unfold functionEnd
  split
  · exact (behindColon_steady each).append inside
  · exact inside

theorem function_steady {pointers : List (Drawn .pointerOperator)} {isOverride isFinal : Bool}
    {body : Drawn .functionBody} (before : specs.Steady false)
    (pointed : ∀ operator ∈ pointers, operator.Steady) (named : title.Steady false)
    (signed : sig.Steady false) (each : ∀ doc ∈ items, doc.Steady false) (inside : body.Steady) :
    (function specs pointers title sig isOverride isFinal items body).Steady false :=
  have result := functionResult_steady before (pointerOperators_steady pointed)
  ((((result.append named).append signed).append (.onlyIf _ _)).append (.onlyIf _ _)).append
    (functionEnd_steady each inside)

theorem variableList_steady {shapes : List (Option Doc → Doc)} (before : specs.Steady false)
    (each : ∀ drawn ∈ shapes, ∀ leading : Option Doc, (∀ doc ∈ leading, doc.Steady false) →
      (drawn leading).Steady false) : (variableList specs shapes).Steady false := by
  cases shapes with
  | nil => exact before
  | cons first rest =>
    obtain ⟨head, others⟩ := List.forall_mem_cons.mp each
    have leading : ∀ doc ∈ some specs, doc.Steady false := by
      rintro doc same
      obtain rfl := Option.some.inj same
      exact before
    have behind := Steady.concat (List.forall_mem_map.mpr fun drawn member =>
      others drawn member none nofun)
    exact (head _ leading).append behind

theorem typedef_steady {shapes : List DeclaratorDoc} (before : specs.Steady false)
    (each : ∀ shape ∈ shapes, shape.Steady) : (typedef specs shapes).Steady false := by
  cases shapes with
  | nil => exact .text _
  | cons first rest =>
    obtain ⟨head, others⟩ := List.forall_mem_cons.mp each
    have behind := Steady.concat (List.forall_mem_map.mpr fun shape member =>
      (Steady.text ", ").append (others shape member).standalone)
    exact (((Steady.text _).append (head.afterSpecifiers before)).append behind).append (.text _)

theorem staticAssert_steady {part : Option (Drawn .expression)} (steady : value.Steady)
    (each : ∀ message ∈ part, message.Steady) : (staticAssert value part).Steady false :=
  have messages := Steady.present fun message member =>
    (Steady.text ", ").append (Drawn.operand_steady Precedence.assignment (each message member))
  (((Steady.text _).append (Drawn.operand_steady Precedence.assignment steady)).append messages).append
    (.text _)

end

section

variable {value : Drawn .expression} {part : Option (Drawn .expression)} {inner : Drawn .statement}
  {statements : List (Drawn .statement)} {init : Option Doc} {test : Doc} {closing : List String}

theorem statementLine_spaced (steady : inner.Steady) : (statementLine inner).Spaced true := by
  obtain ⟨tree, drawing⟩ := inner
  cases tree with
  | statement place form =>
    refine .append (.commentLines _) ?_
    dsimp only
    split
    · exact .line (.behind steady)
    · exact .line ((Spaced.margin.steady.append steady).append (.trailing _))

theorem statementGap_spaced (isFirst : Bool) (statement : Statement) :
    (Doc.text (if isFirst then "" else statementGap statement)).Spaced true := by
  cases statement with
  | statement place form =>
    split
    · exact .empty
    · exact .gap _

theorem statementLines_spaced {isFirst behindLabel : Bool} (each : ∀ inner ∈ statements, inner.Steady) :
    (statementLines isFirst behindLabel statements).Spaced true := by
  induction statements generalizing isFirst behindLabel with
  | nil => exact .empty
  | cons inner rest ih =>
    obtain ⟨first, others⟩ := List.forall_mem_cons.mp each
    have line := statementLine_spaced first
    refine .append (.append (statementGap_spaced isFirst inner.tree) ?_) (ih others)
    split
    · exact line.deeper
    · exact line

theorem block_steady (each : ∀ inner ∈ statements, inner.Steady) :
    (block statements closing).Steady false :=
  .braced (((statementLines_spaced each).append (.commentLines closing)).deeper)

theorem subStatement_steady (steady : inner.Steady) : (subStatement inner).Steady false := by
  obtain ⟨tree, drawing⟩ := inner
  cases tree with
  | statement place form =>
    have ending := Steady.append steady (.trailing place.trailingComment)
    unfold subStatement
    dsimp only
    split
    · exact Steady.beforeBrace.append ending
    · have below := ((Spaced.commentLines place.leadingComments).append .margin).steady.append ending
      exact (Spaced.text (by decide)).followed below.deeper

theorem continued_steady (closed : Bool) (word : String) : (continued closed word).Steady false := by
  cases closed with
  | true =>
    have same : continued true word = beforeBrace ++ Doc.text word := by
      funext layout
      unfold continued
      cases braces : layout.options.braceStyle <;> simp [beforeBrace, braces]
    rw [same]
    exact Steady.beforeBrace.append (.text word)
  | false =>
    have same : continued false word = Doc.text "\n" ++ margin ++ Doc.text word := by
      funext layout
      unfold continued
      cases layout.options.braceStyle <;> rfl
    rw [same]
    exact ((Spaced.text (by decide)).append .margin).steady.append (.text word)

theorem initStatement_steady (each : ∀ doc ∈ init, doc.Steady false) :
    (initStatement init).Steady false :=
  .present fun doc member => (each doc member).append (.text " ")

theorem thenPart_steady {braces : Bool} (steady : inner.Steady) :
    (thenPart braces inner).Steady false := by
  unfold thenPart
  split
  · exact Steady.beforeBrace.append (.braced (statementLine_spaced steady).deeper)
  · exact subStatement_steady steady

theorem elsePart_steady (steady : inner.Steady) : (elsePart inner).Steady false := by
  obtain ⟨tree, drawing⟩ := inner
  cases tree with
  | statement place form =>
    unfold elsePart
    dsimp only
    split
    · exact ((Steady.text " ").append steady).append (.trailing _)
    · exact subStatement_steady steady

theorem ifStatement_steady {isConstexpr : Bool} {elseBranch : Option (Drawn .statement)}
    (begun : ∀ doc ∈ init, doc.Steady false) (tested : test.Steady false) (steady : inner.Steady)
    (each : ∀ other ∈ elseBranch, other.Steady) :
    (ifStatement isConstexpr init test inner elseBranch).Steady false :=
  have head := Steady.parenthesized ((initStatement_steady begun).append tested)
  have behind := Steady.present fun other member =>
    (continued_steady _ _).append (elsePart_steady (each other member))
  ((((Steady.text _).append (.onlyIf _ _)).append head).append (thenPart_steady steady)).append behind

theorem testExpression_steady (steady : value.Steady) : (testExpression value).Steady false := by
  unfold testExpression
  split
  · exact (Drawn.anyExpression_steady steady).parenthesized
  · exact Drawn.anyExpression_steady steady

theorem switchStatement_steady (begun : ∀ doc ∈ init, doc.Steady false) (tested : test.Steady false)
    (steady : inner.Steady) : (switchStatement init test inner).Steady false :=
  ((Steady.text _).append (.parenthesized ((initStatement_steady begun).append tested))).append
    (subStatement_steady steady)

theorem forStatement_steady {tests : Option Doc} (begun : ∀ doc ∈ init, doc.Steady false)
    (tested : ∀ doc ∈ tests, doc.Steady false) (each : ∀ step ∈ part, step.Steady)
    (steady : inner.Steady) : (forStatement init tests part inner).Steady false := by
  have front : (init.getD ";").Steady false := by
    cases init with
    | none => exact .text _
    | some doc => exact begun doc rfl
  have step := spacedBefore_steady (Option.forall_mem_map.mpr fun step member =>
    Drawn.anyExpression_steady (each step member))
  exact ((((((Steady.text _).append front).append (spacedBefore_steady tested)).append (.text _)).append
    step).append (.text _)).append (subStatement_steady steady)

theorem rangeFor_steady {element : Doc} (begun : ∀ doc ∈ init, doc.Steady false)
    (declared : element.Steady false) (ranged : value.Steady) (steady : inner.Steady) :
    (rangeFor init element value inner).Steady false :=
  have range := Drawn.operand_steady Precedence.assignment ranged
  ((((((Steady.text _).append (initStatement_steady begun)).append declared).append (.text _)).append
    range).append (.text _)).append (subStatement_steady steady)

theorem whileStatement_steady (tested : test.Steady false) (steady : inner.Steady) :
    (whileStatement test inner).Steady false :=
  ((Steady.text _).append tested.parenthesized).append (subStatement_steady steady)

theorem doStatement_steady (steady : inner.Steady) (tested : value.Steady) :
    (doStatement inner value).Steady false :=
  ((((Steady.text _).append (subStatement_steady steady)).append (continued_steady _ _)).append
    (Drawn.anyExpression_steady tested)).append (.text _)

/-- Whether an expression would be read as a declaration does not depend on how it is laid out. -/
theorem expressionStatement_steady (steady : value.Steady) :
    (expressionStatement value).Steady false := by
  intro here there beside plain
  unfold expressionStatement at plain ⊢
  dsimp only at plain ⊢
  have content : isPlain (value.anyExpression here).toList = true := by
    split at plain
    · exact (plain_append (plain_append plain).1).2
    · exact (plain_append plain).1
  have alike := Drawn.anyExpression_steady steady here there beside content
  have ended := alike.append (.refl ";")
  have closed : isPlain (value.anyExpression here ++ ";").toList = true := by
    rw [String.toList_append]
    exact isPlain_append_of content (by decide) (by decide)
  have solid : IsSolid fun c => isAlphabetic c || c == '_' || c == ':' :=
    (IsSolid.isAlphabetic.or (.eq _ (by decide))).or (.eq _ (by decide))
  rw [alike.startsWith_eq solid, beside.typeNames,
    readsAsDeclaration_of_glyphs (Token.glyphsOf_of_alike closed ended)]
  split
  · exact ((Alike.refl _).append alike).append (.refl _)
  · exact ended

theorem returnStatement_steady (each : ∀ inner ∈ part, inner.Steady) :
    (returnStatement part).Steady false :=
  ((Steady.text _).append (spacedBefore_steady (Option.forall_mem_map.mpr fun inner member =>
    Drawn.anyExpression_steady (each inner member)))).append (.text _)

theorem handler_steady {param : Option (Bool → Doc)} {body : Doc}
    (each : ∀ drawn ∈ param, ∀ place, (drawn place).Steady false) (inside : body.Steady false) :
    (handler param body).Steady false := by
  have caught : ((param.map (· false)).getD (Doc.text "...")).Steady false := by
    cases param with
    | none => exact .text _
    | some drawn => exact each drawn rfl false
  exact (((continued_steady _ _).append caught.parenthesized).append .beforeBrace).append inside

theorem tryStatement_steady {body : Doc} {handlers : List Doc} (inside : body.Steady false)
    (each : ∀ doc ∈ handlers, doc.Steady false) : (tryStatement body handlers).Steady false :=
  (((Steady.text _).append .beforeBrace).append inside).append (.concat each)

end

end Render

end CppSyntax
