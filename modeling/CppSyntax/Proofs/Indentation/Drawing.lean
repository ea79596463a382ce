import CppSyntax.Render.Indentation

/-!
Indented lines have a width. Whatever is drawn of a node is part of what is drawn of the nodes above
it, however the text of its neighbours decides about parentheses and spaces.
-/

namespace CppSyntax

namespace Doc

/-- The text has at least the blanks of a level, wherever the document is laid out from a depth on. -/
def Indented (least : Nat) (doc : Doc) : Prop :=
  ∀ layout, least ≤ layout.depth → layout.options.indentWidth ≤ (doc layout).utf8ByteSize

namespace Indented

variable {least : Nat} {a b inner : Doc} {parts : List Doc} {text : String} {texts : List String}

@[grind ←]
theorem append_left (indented : a.Indented least) : (a ++ b).Indented least := by
  intro layout deep
  have wide := indented layout deep
  rw [append_apply, String.utf8ByteSize_append]
  omega

@[grind ←]
theorem append_right (indented : b.Indented least) : (a ++ b).Indented least := by
  intro layout deep
  have wide := indented layout deep
  rw [append_apply, String.utf8ByteSize_append]
  omega

@[grind ←]
theorem enclosed (indented : inner.Indented least) : inner.enclosed.Indented least :=
  fun layout deep => indented { layout with greaterFollows := false } deep

@[grind ←]
theorem before (greater : Bool) (indented : inner.Indented least) :
    (inner.before greater).Indented least :=
  fun layout deep => indented { layout with greaterFollows := greater } deep

@[grind ←]
theorem deeper (indented : inner.Indented (least + 1)) : inner.deeper.Indented least :=
  fun layout deep => indented { layout with depth := layout.depth + 1 } (Nat.succ_le_succ deep)

@[grind ←]
theorem parenthesized (indented : inner.Indented least) : inner.parenthesized.Indented least :=
  append_left (append_right indented)

theorem mono {more : Nat} (indented : inner.Indented least) (le : least ≤ more) :
    inner.Indented more :=
  fun layout deep => indented layout (Nat.le_trans le deep)

theorem margin : Doc.margin.Indented 1 := by
  intro layout deep
  have size : (Doc.margin layout).utf8ByteSize = layout.depth * layout.options.indentWidth := by
    rw [Doc.margin, String.pushn_eq_repeat_push]
    induction layout.depth * layout.options.indentWidth with
    | zero => rfl
    | succ count ih =>
      rw [Nat.repeat, String.utf8ByteSize_push, ih]
      rfl
  rw [size]
  exact Nat.le_mul_of_pos_left _ deep

theorem join_le (member : text ∈ texts) : text.utf8ByteSize ≤ (String.join texts).utf8ByteSize := by
  obtain ⟨before, after, rfl⟩ := List.append_of_mem member
  rw [String.join_append, String.join_cons]
  simp only [String.utf8ByteSize_append]
  omega

theorem intercalate_le (separator : String) (member : text ∈ texts) :
    text.utf8ByteSize ≤ (separator.intercalate texts).utf8ByteSize := by
  induction texts with
  | nil => cases member
  | cons first rest ih =>
    cases rest with
    | nil =>
      obtain rfl := List.mem_singleton.mp member
      simp
    | cons second rest =>
      rw [String.intercalate_cons_cons]
      simp only [String.utf8ByteSize_append]
      rcases List.mem_cons.mp member with rfl | later
      · omega
      · have wide := ih later
        omega

@[grind ←]
theorem concat (one : ∃ part ∈ parts, part.Indented least) : (Doc.concat parts).Indented least := by
  obtain ⟨part, member, indented⟩ := one
  exact fun layout deep => Nat.le_trans (indented layout deep)
    (join_le (List.mem_map.mpr ⟨part, member, rfl⟩))

@[grind ←]
theorem separated {separator : String} (one : ∃ part ∈ parts, part.Indented least) :
    (Doc.separated separator parts).Indented least := by
  obtain ⟨part, member, indented⟩ := one
  exact fun layout deep => Nat.le_trans (indented layout deep)
    (intercalate_le _ (List.mem_map.mpr ⟨part, member, rfl⟩))

theorem bracketed_le {inside : Prop} [Decidable inside] (before after text : String) :
    text.utf8ByteSize ≤ (if inside then before ++ text ++ after else text).utf8ByteSize := by
  split
  · simp only [String.utf8ByteSize_append]
    omega
  · exact Nat.le_refl _

theorem commentLines {comments : List String} (some : comments.isEmpty = false) :
    (Doc.commentLines comments).Indented 1 := by
  cases comments with
  | nil => cases some
  | cons comment rest =>
    exact concat ⟨_, List.mem_cons_self .., append_left (append_left margin)⟩

end Indented

end Doc

/-- A declarator of which the pointer operators or the rest are indented. -/
def DeclaratorDoc.Indented (shape : DeclaratorDoc) : Prop :=
  shape.pointers.Indented 0 ∨ shape.core.Indented 0

/-- A type of which the specifier or the declarator is indented. -/
def TypeDoc.Indented (target : TypeDoc) : Prop :=
  target.spec.Indented 0 ∨ target.shape.Indented

/-- What is drawn of a node is indented, whatever it depends on. -/
def Drawing.Indented : (c : Category) → Drawing c → Prop
  | .declarator, shape => DeclaratorDoc.Indented shape
  | .typeId, target => TypeDoc.Indented target
  | .parameter, drawn | .initializer, drawn => ∀ place, (drawn place).Indented 0
  | .initDeclarator, drawn => ∀ specs, (drawn specs).Indented 0
  | .segment, doc | .name, doc | .templateArgument, doc | .typeSpecifier, doc
  | .pointerOperator, doc | .declaratorCore, doc | .exceptionSpec, doc | .signature, doc
  | .parameterList, doc | .declaratorSuffix, doc | .specifiers, doc | .memberInit, doc
  | .functionBody, doc | .base, doc | .classSpecifier, doc | .enumerator, doc | .enumSpecifier, doc
  | .templateParameter, doc | .declarationForm, doc | .declaration, doc | .block, doc
  | .condition, doc | .handler, doc | .statementForm, doc | .statement, doc | .operand, doc
  | .capture, doc | .expression, doc | .unit, doc => Doc.Indented 0 doc

def Drawn.Indented {c : Category} (drawn : Drawn c) : Prop := Drawing.Indented c drawn.drawing

/-- One of the nodes is indented. -/
def AnyIndented {c : Category} (items : List (Drawn c)) : Prop := ∃ item ∈ items, item.Indented

def PartIndented {c : Category} (part : Option (Drawn c)) : Prop :=
  ∃ inner, part = some inner ∧ inner.Indented

section

variable {c : Category} {items : List (Drawn c)} {part : Option (Drawn c)} {f : Drawn c → Doc}

theorem AnyIndented.map (one : AnyIndented items)
    (each : ∀ item : Drawn c, item.Indented → (f item).Indented 0) :
    ∃ doc ∈ items.map f, doc.Indented 0 := by
  obtain ⟨item, member, indented⟩ := one
  exact ⟨f item, List.mem_map.mpr ⟨item, member, rfl⟩, each item indented⟩

theorem PartIndented.map (one : PartIndented part)
    (each : ∀ inner : Drawn c, inner.Indented → (f inner).Indented 0) :
    (Doc.ifPresent (part.map f)).Indented 0 := by
  obtain ⟨inner, rfl, indented⟩ := one
  exact each inner indented

end

namespace DeclaratorDoc

variable {shape : DeclaratorDoc} {specs : Doc}

theorem attached_le (pointers : String) : pointers.utf8ByteSize ≤ (attached pointers).utf8ByteSize := by
  unfold attached
  split
  · rw [String.utf8ByteSize_append]
    omega
  · exact Nat.le_refl _

@[grind ←]
theorem Indented.afterType (indented : shape.Indented) : shape.afterType.Indented 0 := by
  intro layout _
  have attached := attached_le (shape.pointers layout)
  unfold DeclaratorDoc.afterType
  simp only [String.utf8ByteSize_append]
  rcases indented with indented | indented
  all_goals have wide := indented layout (Nat.zero_le _)
  all_goals omega

@[grind ←]
theorem Indented.standalone (indented : shape.Indented) : shape.standalone.Indented 0 := by
  intro layout _
  unfold DeclaratorDoc.standalone
  simp only [String.utf8ByteSize_append]
  rcases indented with indented | indented
  all_goals have wide := indented layout (Nat.zero_le _)
  all_goals omega

theorem afterSpecifiers_indented (one : specs.Indented 0 ∨ shape.Indented) :
    (shape.afterSpecifiers specs).Indented 0 := by
  intro layout _
  unfold DeclaratorDoc.afterSpecifiers
  rcases one with indented | indented
  · have wide := indented layout (Nat.zero_le _)
    dsimp only
    split
    · rename_i none
      rw [String.isEmpty_iff_utf8ByteSize_eq_zero.mp none] at wide
      omega
    · rw [String.utf8ByteSize_append]
      omega
  · dsimp only
    split
    · exact indented.standalone layout (Nat.zero_le _)
    · have wide := indented.afterType layout (Nat.zero_le _)
      rw [String.utf8ByteSize_append]
      omega

end DeclaratorDoc

@[grind ←]
theorem TypeDoc.Indented.doc {target : TypeDoc} (indented : target.Indented) :
    target.doc.Indented 0 := by
  unfold TypeDoc.doc
  rcases indented with indented | indented
  · exact .append_left indented
  · exact .append_right indented.afterType

namespace Drawn

variable {inner : Drawn .expression} {items : List (Drawn .expression)}

@[grind ←]
theorem operand_indented (level : Nat) (indented : inner.Indented) :
    (inner.operand level).Indented 0 := by
  unfold operand
  split
  · exact .parenthesized (.enclosed indented)
  · exact indented

@[grind ←]
theorem anyExpression_indented (indented : inner.Indented) : inner.anyExpression.Indented 0 :=
  operand_indented _ indented

theorem listTexts_indented (one : AnyIndented items) (layout : Layout) :
    ∃ text ∈ (listTexts layout items).1, layout.options.indentWidth ≤ text.utf8ByteSize := by
  induction items with
  | nil => simp [AnyIndented] at one
  | cons item rest ih =>
    obtain ⟨other, member, indented⟩ := one
    rcases List.mem_cons.mp member with rfl | later
    · exact ⟨_, List.mem_cons_self .., (operand_indented _ indented).before _ layout (Nat.zero_le _)⟩
    · obtain ⟨text, among, wide⟩ := ih ⟨other, later, indented⟩
      exact ⟨text, List.mem_cons_of_mem _ among, wide⟩

@[grind ←]
theorem list_indented (one : AnyIndented items) : (list items).Indented 0 := by
  intro layout _
  obtain ⟨text, among, wide⟩ := listTexts_indented one layout
  exact Nat.le_trans wide (Doc.Indented.intercalate_le _ among)

@[grind ←]
theorem parenthesizedList_indented (one : AnyIndented items) :
    (parenthesizedList items).Indented 0 := (list_indented one).parenthesized

@[grind ←]
theorem bracedList_indented (one : AnyIndented items) : (bracedList items).Indented 0 :=
  .append_left (.append_right (list_indented one))

end Drawn

namespace Render

open Doc

section

variable {value left right : Drawn .expression} {values : List (Drawn .expression)}
  {part : Option (Drawn .expression)}

theorem valueArgument_indented (indented : value.Indented) : (valueArgument value).Indented 0 := by
  intro layout _
  have wide := Drawn.operand_indented Precedence.conditional indented layout (Nat.zero_le _)
  exact Nat.le_trans wide (Doc.Indented.bracketed_le _ _ _)

theorem binary_indented {op : BinaryOp} (one : left.Indented ∨ right.Indented) :
    (binary op left right).Indented 0 := by
  intro layout _
  unfold binary
  rcases one with indented | indented
  · have wide := (Drawn.operand_indented op.precedence indented).before
      (layout.greaterFollows || hasBareGreater (right.operand (op.precedence + 1) layout) ||
        startsWithGreater op) layout (Nat.zero_le _)
    dsimp only
    split <;> simp only [String.utf8ByteSize_append] <;> omega
  · have wide := Drawn.operand_indented (op.precedence + 1) indented layout (Nat.zero_le _)
    simp only [String.utf8ByteSize_append]
    omega

theorem assignment_indented {op : AssignOp} (one : left.Indented ∨ right.Indented) :
    (assignment op left right).Indented 0 := by
  unfold assignment
  grind

theorem unary_indented {op : UnaryOp} (indented : value.Indented) : (unary op value).Indented 0 := by
  intro layout _
  unfold unary
  split
  · have wide := Drawn.operand_indented Precedence.postfixed indented layout (Nat.zero_le _)
    simp only [String.utf8ByteSize_append]
    omega
  · have wide := Drawn.operand_indented Precedence.unary indented layout (Nat.zero_le _)
    simp only [String.utf8ByteSize_append]
    omega

theorem conditional_indented {test : Drawn .expression}
    (one : test.Indented ∨ left.Indented ∨ right.Indented) :
    (conditional test left right).Indented 0 := by
  unfold conditional
  grind

theorem call_indented (one : left.Indented ∨ AnyIndented values) :
    (call left values).Indented 0 := by
  unfold call
  grind

theorem index_indented (one : left.Indented ∨ right.Indented) : (index left right).Indented 0 := by
  unfold index
  grind

theorem member_indented {arrow : Bool} {target : Doc}
    (one : value.Indented ∨ target.Indented 0) : (member value arrow target).Indented 0 := by
  unfold member
  rcases one with indented | indented
  · grind
  · exact .append_right indented

theorem cast_indented {kind : CastKind} {target : TypeDoc}
    (one : target.Indented ∨ value.Indented) : (cast kind target value).Indented 0 := by
  unfold cast
  have listed (indented : value.Indented) : AnyIndented [value] :=
    ⟨value, List.mem_singleton.mpr rfl, indented⟩
  split
  · grind
  · split <;> grind

theorem fold_indented {op : BinaryOp} {before after : Option (Drawn .expression)}
    (one : PartIndented before ∨ PartIndented after) : (fold op before after).Indented 0 := by
  unfold fold
  refine .parenthesized (.enclosed ?_)
  rcases one with one | one
  · exact .append_left (.append_left (one.map fun inner indented => by grind))
  · exact .append_right (one.map fun inner indented => by grind)

theorem newType_indented {target : Drawn .typeId} (one : target.Indented ∨ PartIndented part) :
    (newType target part).Indented 0 := by
  unfold newType
  cases part with
  | none =>
    have indented : target.drawing.doc.Indented 0 := by
      rcases one with indented | ⟨_, missing, _⟩
      · exact indented.doc
      · cases missing
    dsimp only
    split
    · exact indented
    · exact indented.parenthesized
  | some size =>
    intro layout _
    have attached := DeclaratorDoc.attached_le (target.drawing.shape.pointers layout)
    simp only [String.utf8ByteSize_append]
    rcases one with (indented | indented | indented) | ⟨_, ⟨⟩, indented⟩
    · have wide := indented layout (Nat.zero_le _)
      omega
    · have wide := indented layout (Nat.zero_le _)
      omega
    · have wide := indented layout (Nat.zero_le _)
      omega
    · have wide := (Drawn.anyExpression_indented indented).enclosed layout (Nat.zero_le _)
      omega

theorem newExpression_indented {isGlobal : Bool} {target : Drawn .typeId}
    {init : Option (Drawn .initializer)}
    (one : AnyIndented values ∨ target.Indented ∨ PartIndented part ∨ PartIndented init) :
    (newExpression isGlobal values target part (init.map (·.drawing))).Indented 0 := by
  unfold newExpression
  rcases one with one | one
  · have some : values.isEmpty = false := by
      obtain ⟨item, member, _⟩ := one
      cases values with
      | nil => cases member
      | cons => rfl
    rw [some]
    grind
  · rcases one with indented | indented | indented
    · exact .append_left (.append_right (newType_indented (.inl indented)))
    · exact .append_left (.append_right (newType_indented (.inr indented)))
    · refine .append_right ?_
      rw [Option.map_map]
      exact indented.map fun inner indented => indented false

theorem deleteExpression_indented {isGlobal isArray : Bool} (indented : value.Indented) :
    (deleteExpression isGlobal isArray value).Indented 0 := by
  unfold deleteExpression
  grind

theorem spacedBefore_indented {c : Category} {part : Option (Drawn c)} {f : Drawn c → Doc}
    (one : PartIndented part) (each : ∀ inner : Drawn c, inner.Indented → (f inner).Indented 0) :
    (spacedBefore (part.map f)).Indented 0 := by
  unfold spacedBefore
  rw [Option.map_map]
  exact one.map fun inner indented => .append_right (each inner indented)

theorem capture_indented {ident : String} {pack : Bool} (one : PartIndented part) :
    (capture ident part pack).Indented 0 :=
  .append_right (one.map fun _ indented => .append_right (Drawn.operand_indented _ indented))

theorem trailingResult_indented {result : Option (Drawn .typeId)} (one : PartIndented result) :
    (trailingResult (result.map (·.drawing))).Indented 0 := by
  unfold trailingResult
  rw [Option.map_map]
  exact one.map fun _ indented => .append_right (TypeDoc.Indented.doc indented)

theorem lambda_indented {captures : List (Drawn .capture)} {parameters : Option (Drawn .parameterList)}
    {isMutable isConstexpr : Bool} {exception : Option (Drawn .exceptionSpec)}
    {result : Option (Drawn .typeId)} {body : Drawn .block}
    (one : AnyIndented captures ∨ PartIndented parameters ∨ PartIndented exception ∨
      PartIndented result ∨ (isEmptyBlock body.tree = false ∧ body.Indented)) :
    (lambda (captures.map (·.drawing)) (parameters.map (·.drawing)) isMutable isConstexpr
      (exception.map (·.drawing)) (result.map (·.drawing)) body).Indented 0 := by
  unfold lambda
  rcases one with one | one | one | one | ⟨written, indented⟩
  · have listed : (Doc.separated ", " (captures.map (·.drawing))).Indented 0 :=
      .separated (one.map fun _ indented => indented)
    grind
  · have there : (Doc.ifPresent (parameters.map (·.drawing))).Indented 0 :=
      one.map fun _ indented => indented
    grind
  · have there : (spacedBefore (exception.map (·.drawing))).Indented 0 :=
      spacedBefore_indented one fun _ indented => indented
    grind
  · have there := trailingResult_indented one
    grind
  · rw [written]
    exact .append_right (.append_right (.enclosed indented))

end

section

variable {cv : Qualifiers} {type : Doc}

@[grind ←]
theorem qualified_indented (indented : type.Indented 0) : (qualified cv type).Indented 0 := by
  unfold qualified
  grind

@[grind ←]
theorem segment_indented {marked : Bool} {spelled : Doc} (indented : spelled.Indented 0) :
    (segment marked spelled).Indented 0 := by
  unfold segment
  grind

theorem templateArguments_indented {items : List (Drawn .templateArgument)} (one : AnyIndented items) :
    (templateArguments (items.map (·.drawing))).Indented 0 :=
  .append_left (.append_right (.enclosed (.separated (one.map fun _ indented => indented))))

theorem specifiers_indented {attributes alignments : List String} {modifiers : List Modifier}
    {type : Option (Drawn .typeSpecifier)} (one : PartIndented type) :
    (specifiers attributes alignments modifiers (type.map (·.drawing))).Indented 0 := by
  obtain ⟨inner, rfl, indented⟩ := one
  exact fun layout deep => Nat.le_trans (indented layout deep)
    (Doc.Indented.intercalate_le _ (List.mem_append_right _ (List.mem_singleton.mpr rfl)))

/-- A text that only grows holds whatever it has grown by. -/
theorem foldl_le {α : Type} {step : String → α → String} {items : List α} (width : α → Nat)
    (grows : ∀ content item, content.utf8ByteSize ≤ (step content item).utf8ByteSize)
    (holds : ∀ content item, width item ≤ (step content item).utf8ByteSize) (content : String) :
    content.utf8ByteSize ≤ (items.foldl step content).utf8ByteSize ∧
      ∀ item ∈ items, width item ≤ (items.foldl step content).utf8ByteSize := by
  induction items generalizing content with
  | nil => exact ⟨Nat.le_refl _, nofun⟩
  | cons first rest ih =>
    obtain ⟨start, later⟩ := ih (step content first)
    refine ⟨Nat.le_trans (grows content first) start, fun item member => ?_⟩
    rcases List.mem_cons.mp member with rfl | among
    · exact Nat.le_trans (holds content item) start
    · exact later item among

theorem pointerOperators_indented {operators : List (Drawn .pointerOperator)}
    (one : AnyIndented operators) : (pointerOperators operators).Indented 0 := by
  intro layout deep
  obtain ⟨item, member, indented⟩ := one
  refine Nat.le_trans (indented layout deep) ((foldl_le
    (fun item : Drawn .pointerOperator => String.utf8ByteSize (item.drawing layout))
    (fun content item => ?_) (fun content item => ?_) "").2 item member)
  all_goals
    simp only [String.utf8ByteSize_append]
    omega

theorem declarator_indented {pointers : List (Drawn .pointerOperator)} {pack : Bool}
    {core : Drawn .declaratorCore} {suffixes : List (Drawn .declaratorSuffix)}
    (one : AnyIndented pointers ∨ core.Indented ∨ AnyIndented suffixes) :
    (declarator pointers pack core (suffixes.map (·.drawing))).Indented := by
  rcases one with one | indented | one
  · exact .inl (pointerOperators_indented one)
  · exact .inr (.append_left (.append_right indented))
  · exact .inr (.append_right (.concat (one.map fun _ indented => indented)))

theorem arraySuffix_indented {size : Option (Drawn .expression)} (one : PartIndented size) :
    (arraySuffix size).Indented 0 :=
  .append_left (.append_right (one.map fun _ => Drawn.anyExpression_indented))

theorem parameter_indented {specs : Doc} {shape : DeclaratorDoc}
    {fallback : Option (Drawn .expression)}
    (one : specs.Indented 0 ∨ shape.Indented ∨ PartIndented fallback) (inTemplate : Bool) :
    (parameter specs shape fallback inTemplate).Indented 0 := by
  unfold parameter
  rcases one with indented | indented | one
  · exact .append_left (DeclaratorDoc.afterSpecifiers_indented (.inl indented))
  · exact .append_left (DeclaratorDoc.afterSpecifiers_indented (.inr indented))
  · refine .append_right (one.map fun inner indented layout _ => ?_)
    have wide := Drawn.operand_indented Precedence.assignment indented layout (Nat.zero_le _)
    dsimp only
    split <;> simp only [String.utf8ByteSize_append] <;> omega

theorem parameterList_indented {items : List (Drawn .parameter)} {variadic : Bool}
    (one : AnyIndented items) : (parameterList (items.map (·.drawing false)) variadic).Indented 0 :=
  .parenthesized (.append_left (.separated (one.map fun _ indented => indented false)))

theorem signature_indented {parameters : Doc} {reference : Option ReferenceQualifier}
    {exception : Option (Drawn .exceptionSpec)} {result : Option (Drawn .typeId)}
    (one : parameters.Indented 0 ∨ PartIndented exception ∨ PartIndented result) :
    (signature parameters cv reference (exception.map (·.drawing))
      (result.map (·.drawing))).Indented 0 := by
  unfold signature
  rcases one with indented | one | one
  · exact .append_left (.append_left (.append_left (.append_left indented)))
  · exact .append_left (.append_right (spacedBefore_indented one fun _ indented => indented))
  · exact .append_right (trailingResult_indented one)

theorem noexceptSpec_indented {holds : Option (Drawn .expression)} (one : PartIndented holds) :
    (noexceptSpec holds).Indented 0 :=
  .append_right (one.map fun _ indented => .parenthesized (Drawn.anyExpression_indented indented))

theorem throwSpec_indented {types : List (Drawn .typeId)} (one : AnyIndented types) :
    (throwSpec (types.map (·.drawing))).Indented 0 := by
  unfold throwSpec
  rw [List.map_map]
  exact .append_right (.parenthesized (.separated (one.map fun _ => TypeDoc.Indented.doc)))

end

section

variable {value : Drawn .expression} {values : List (Drawn .expression)}
  {inner : Drawn .declaration} {members : List (Drawn .declaration)} {closing : List String}
  {least : Nat}

theorem parenInit_indented (one : AnyIndented values) (afterDeclarator : Bool) :
    (parenInit values afterDeclarator).Indented 0 := by
  intro layout _
  obtain ⟨text, among, wide⟩ := Drawn.listTexts_indented one layout
  unfold parenInit
  generalize (Drawn.listTexts layout values).1 = texts at among
  have joined := Doc.Indented.intercalate_le ", " among
  cases texts with
  | nil => cases among
  | cons first rest =>
    have apart : text.utf8ByteSize ≤ (", ".intercalate (("(" ++ first ++ ")") :: rest)).utf8ByteSize := by
      rcases List.mem_cons.mp among with rfl | later
      · refine Nat.le_trans ?_ (Doc.Indented.intercalate_le _ (List.mem_cons_self ..))
        simp only [String.utf8ByteSize_append]
        omega
      · exact Doc.Indented.intercalate_le _ (List.mem_cons_of_mem _ later)
    dsimp only
    split <;> simp only [String.utf8ByteSize_append] <;> omega

theorem initDeclarator_indented {shape : DeclaratorDoc} {width : Option (Drawn .expression)}
    {init : Option (Drawn .initializer)} {specs : Option Doc}
    (one : (∃ doc, specs = some doc ∧ doc.Indented 0) ∨ shape.Indented ∨ PartIndented width ∨
      PartIndented init) :
    (initDeclarator shape width (init.map (·.drawing)) specs).Indented 0 := by
  intro layout deep
  unfold initDeclarator
  simp only [String.utf8ByteSize_append]
  rcases one with ⟨doc, rfl, indented⟩ | indented | one | one
  · have wide : _ ≤ String.utf8ByteSize (shape.afterSpecifiers doc layout) :=
      DeclaratorDoc.afterSpecifiers_indented (.inl indented) layout deep
    dsimp only
    omega
  · cases specs with
    | none =>
      have wide := DeclaratorDoc.Indented.standalone indented layout deep
      simp only [String.utf8ByteSize_append]
      omega
    | some doc =>
      have wide : _ ≤ String.utf8ByteSize (shape.afterSpecifiers doc layout) :=
        DeclaratorDoc.afterSpecifiers_indented (.inr indented) layout deep
      dsimp only
      omega
  · obtain ⟨size, rfl, indented⟩ := one
    have wide := Drawn.operand_indented Precedence.conditional indented layout deep
    simp only [Option.map_some, Doc.ifPresent, Option.getD_some, append_apply,
      String.utf8ByteSize_append]
    omega
  · rw [Option.map_map]
    have wide := one.map (f := fun inner : Drawn .initializer => inner.drawing true)
      (fun _ indented => indented true) layout deep
    simp only [Function.comp_def] at wide ⊢
    omega

theorem completed_indented (indented : inner.Indented) : (completed inner).Indented 0 :=
  .append_left indented

/-- A declaration that is no label of its own column brings the margin of its line. -/
theorem declarationLine_indented (indented : inner.Indented) : (declarationLine inner).Indented 0 := by
  unfold declarationLine
  have drawn : Doc.Indented 0 inner.drawing := indented
  have whole := completed_indented indented
  split
  refine .append_right ?_
  split <;> grind

theorem declarationLine_margin (written : inner.tree.indentsAsMember = true) :
    (declarationLine inner).Indented 1 := by
  obtain ⟨tree, drawing⟩ := inner
  obtain ⟨place, form, rfl⟩ : ∃ place form, tree = .declaration place form := by
    cases tree
    exact ⟨_, _, rfl⟩
  cases comments : place.leadingComments.isEmpty with
  | false => exact .append_left (.commentLines comments)
  | true =>
    refine .append_right ?_
    cases form
    case directive => simp [Tree.indentsAsMember, comments] at written
    case accessLabel => simp [Tree.indentsAsMember, comments] at written
    all_goals exact .append_left (.append_left (.append_left .margin))

theorem declarationLines_indented (one : ∃ inner ∈ members, (declarationLine inner).Indented least) :
    (declarationLines members).Indented least := by
  cases members with
  | nil => simp at one
  | cons first rest =>
    obtain ⟨inner, member, indented⟩ := one
    rcases List.mem_cons.mp member with rfl | later
    · exact .append_left indented
    · exact .append_right (.concat ⟨_, List.mem_map.mpr ⟨inner, later, rfl⟩, .append_right indented⟩)

theorem AnyIndented.lines (one : AnyIndented members) : (declarationLines members).Indented 0 := by
  obtain ⟨inner, member, indented⟩ := one
  exact declarationLines_indented ⟨inner, member, declarationLine_indented indented⟩

theorem innerDeclaration_indented (indented : inner.Indented) : (innerDeclaration inner).Indented 0 := by
  unfold innerDeclaration
  split
  exact .append_left (completed_indented indented)

theorem braced_indented {lines : Doc} (indented : lines.Indented least) :
    (braced lines).Indented least :=
  .append_left (.append_left (.append_right indented))

theorem namespaceBlock_indented {path : List String} {isInline : Bool} (one : AnyIndented members) :
    (namespaceBlock path isInline members closing).Indented 0 :=
  .append_right (braced_indented (.append_left (AnyIndented.lines one)))

theorem linkageBlock_indented {abi : String} (one : AnyIndented members) :
    (linkageBlock abi members).Indented 0 :=
  .append_right (braced_indented (AnyIndented.lines one))

theorem behindColon_indented {c : Category} {items : List (Drawn c)} {f : Drawn c → Doc}
    (one : AnyIndented items) (each : ∀ item : Drawn c, item.Indented → (f item).Indented 0) :
    (behindColon (items.map f)).Indented 0 := by
  have listed := one.map each
  unfold behindColon
  split
  · rename_i none
    rw [List.isEmpty_iff.mp none] at listed
    simp at listed
  · exact .append_right (.separated listed)

theorem enumHead_indented {key : Option ClassKey} {title : Option Doc}
    {underlying : Option (Drawn .typeSpecifier)}
    (one : (spacedBefore title).Indented 0 ∨ PartIndented underlying) :
    (enumHead key title (underlying.map (·.drawing))).Indented 0 := by
  unfold enumHead
  rcases one with indented | one
  · exact .append_left (.append_right indented)
  · rw [Option.map_map]
    exact .append_right (one.map fun _ indented => .append_right indented)

theorem classSpecifier_indented {key : ClassKey} {attributes alignments : List String}
    {title : Option (Drawn .name)} {isFinal : Bool} {bases : List (Drawn .base)}
    (one : PartIndented title ∨ AnyIndented bases ∨ AnyIndented members) :
    (classSpecifier key attributes alignments (title.map (·.drawing)) isFinal
      (bases.map (·.drawing)) members closing).Indented 0 := by
  unfold classSpecifier
  rcases one with one | one | one
  · have there : (spacedBefore (title.map (·.drawing))).Indented 0 :=
      spacedBefore_indented one fun _ indented => indented
    grind
  · have listed : (behindColon (bases.map (·.drawing))).Indented 0 :=
      behindColon_indented one fun _ indented => indented
    grind
  · refine .append_right (braced_indented (.deeper (.append_left ?_)))
    exact (AnyIndented.lines one).mono (Nat.zero_le _)

theorem classSpecifier_lines {key : ClassKey} {attributes alignments : List String}
    {title : Option Doc} {isFinal : Bool} {bases : List Doc}
    (one : (∃ inner ∈ members, inner.tree.indentsAsMember = true) ∨ closing.isEmpty = false) :
    (classSpecifier key attributes alignments title isFinal bases members closing).Indented 0 := by
  refine .append_right (braced_indented (.deeper ?_))
  rcases one with ⟨inner, member, written⟩ | some
  · exact .append_left (declarationLines_indented ⟨inner, member, declarationLine_margin written⟩)
  · exact .append_right (.commentLines some)

theorem enumeratorLine_indented {item : Drawn .enumerator} {isLast : Bool} (indented : item.Indented) :
    (enumeratorLine item isLast).Indented 0 := by
  unfold enumeratorLine
  split
  exact .append_left (.append_left (.append_left (.append_right indented)))

theorem enumeratorLine_margin {item : Drawn .enumerator} {isLast : Bool} :
    (enumeratorLine item isLast).Indented 1 := by
  unfold enumeratorLine
  split
  exact .append_left (.append_left (.append_left (.append_left (.append_right .margin))))

theorem enumeratorLines_indented {isFirst : Bool} {items : List (Drawn .enumerator)}
    (one : ∃ item ∈ items, ∀ isLast, (enumeratorLine item isLast).Indented least) :
    (enumeratorLines isFirst items).Indented least := by
  induction items generalizing isFirst with
  | nil => simp at one
  | cons first rest ih =>
    obtain ⟨item, member, indented⟩ := one
    unfold enumeratorLines
    rcases List.mem_cons.mp member with rfl | later
    · exact .append_left (.append_right (indented _))
    · exact .append_right (ih ⟨item, later, indented⟩)

theorem enumSpecifier_indented {key : Option ClassKey} {title : Option (Drawn .name)}
    {underlying : Option (Drawn .typeSpecifier)} {items : List (Drawn .enumerator)}
    (one : PartIndented title ∨ PartIndented underlying ∨ AnyIndented items) :
    (enumSpecifier key (title.map (·.drawing)) (underlying.map (·.drawing)) items).Indented 0 := by
  unfold enumSpecifier
  rcases one with one | one | ⟨item, member, indented⟩
  · refine .append_left (.append_left (enumHead_indented (.inl ?_)))
    exact spacedBefore_indented one fun _ indented => indented
  · exact .append_left (.append_left (enumHead_indented (.inr one)))
  · refine .append_right (braced_indented (.deeper ((?_ : Doc.Indented 0 _).mono (Nat.zero_le _))))
    exact enumeratorLines_indented ⟨item, member, fun _ => enumeratorLine_indented indented⟩

theorem enumSpecifier_lines {key : Option ClassKey} {title underlying : Option Doc}
    {items : List (Drawn .enumerator)} (some : items ≠ []) :
    (enumSpecifier key title underlying items).Indented 0 := by
  obtain ⟨item, member⟩ := List.exists_mem_of_ne_nil items some
  exact .append_right (braced_indented (.deeper
    (enumeratorLines_indented ⟨item, member, fun _ => enumeratorLine_margin⟩)))

theorem typeParameter_indented {c : Category} {key : TypeParameterKey} {pack : Bool}
    {ident : Option String} {fallback : Option (Drawn c)} {f : Drawn c → Doc}
    (one : PartIndented fallback) (each : ∀ inner : Drawn c, inner.Indented → (f inner).Indented 0) :
    (typeParameter key pack ident (fallback.map f)).Indented 0 := by
  unfold typeParameter
  rw [Option.map_map]
  exact .append_right (one.map fun inner indented => .append_right (each inner indented))

theorem templateHeader_indented {params : List (Drawn .templateParameter)} (one : AnyIndented params) :
    (templateHeader (params.map (·.drawing))).Indented 0 :=
  .append_left (.append_right (.separated (one.map fun _ indented => indented)))

theorem template_indented {params : List (Drawn .templateParameter)} {isInstantiation : Bool}
    (one : (isInstantiation = false ∧ AnyIndented params) ∨ inner.Indented) :
    (template (params.map (·.drawing)) isInstantiation inner).Indented 0 := by
  unfold template
  rcases one with ⟨rfl, one⟩ | indented
  · split
    · contradiction
    · split
      exact .append_left (.append_left (.append_left (.append_left (templateHeader_indented one))))
  · split
    · exact .append_right (innerDeclaration_indented indented)
    · split
      exact .append_right (innerDeclaration_indented indented)

theorem memberInit_indented {target : Doc} {init : Bool → Doc} {pack : Bool}
    (one : target.Indented 0 ∨ ∀ place, (init place).Indented 0) :
    (memberInit target init pack).Indented 0 := by
  rcases one with indented | indented
  · exact .append_left (.append_left indented)
  · exact .append_left (.append_right (indented false))

theorem functionResult_indented {specs : Doc} {pointers : List (Drawn .pointerOperator)}
    (one : specs.Indented 0 ∨ AnyIndented pointers) :
    (functionResult specs (pointerOperators pointers)).Indented 0 := by
  intro layout deep
  have attached := DeclaratorDoc.attached_le (pointerOperators pointers layout)
  unfold functionResult
  rcases one with indented | one
  · have wide := indented layout deep
    dsimp only
    split
    · rename_i none
      rw [String.isEmpty_iff_utf8ByteSize_eq_zero.mp none] at wide
      omega
    · simp only [String.utf8ByteSize_append]
      omega
  · have wide := pointerOperators_indented one layout deep
    dsimp only
    split
    · exact wide
    · simp only [String.utf8ByteSize_append]
      omega

theorem function_indented {specs title sig : Doc} {pointers : List (Drawn .pointerOperator)}
    {isOverride isFinal : Bool}
    {inits : List (Drawn .memberInit)} {body : Drawn .functionBody}
    (one : specs.Indented 0 ∨ AnyIndented pointers ∨ title.Indented 0 ∨ sig.Indented 0 ∨
      ((∃ inside, body.tree = .defined inside) ∧ AnyIndented inits) ∨ body.Indented) :
    (Render.function specs pointers title sig isOverride isFinal
      (inits.map (·.drawing)) body).Indented 0 := by
  unfold Render.function
  rcases one with indented | one | indented | indented | ⟨⟨inside, defined⟩, one⟩ | indented
  · have result : (functionResult specs (pointerOperators pointers)).Indented 0 :=
      functionResult_indented (.inl indented)
    grind
  · have result : (functionResult specs (pointerOperators pointers)).Indented 0 :=
      functionResult_indented (.inr one)
    grind
  · exact .append_left (.append_left (.append_left (.append_left (.append_right indented))))
  · exact .append_left (.append_left (.append_left (.append_right indented)))
  · refine .append_right ?_
    unfold functionEnd
    rw [defined]
    exact .append_left (behindColon_indented one fun _ indented => indented)
  · refine .append_right ?_
    unfold functionEnd
    split
    · exact .append_right indented
    · exact indented

theorem variableList_indented {specs : Doc} {first : Drawn .initDeclarator}
    {rest : List (Drawn .initDeclarator)}
    (bound : specs.Indented 0 → (first.drawing (some specs)).Indented 0)
    (one : specs.Indented 0 ∨ AnyIndented (first :: rest)) :
    (variableList specs ((first :: rest).map (·.drawing))).Indented 0 := by
  rcases one with indented | ⟨shape, member, indented⟩
  · exact .append_left (bound indented)
  · rcases List.mem_cons.mp member with rfl | later
    · exact .append_left (indented _)
    · refine .append_right (.concat ⟨shape.drawing none, ?_, indented none⟩)
      rw [List.map_map]
      exact List.mem_map.mpr ⟨shape, later, rfl⟩

theorem typedef_indented {specs : Doc} {first : Drawn .declarator} {rest : List (Drawn .declarator)}
    (one : specs.Indented 0 ∨ AnyIndented (first :: rest)) :
    (Render.typedef specs ((first :: rest).map (·.drawing))).Indented 0 := by
  rcases one with indented | ⟨shape, member, indented⟩
  · exact .append_left (.append_left (.append_right
      (DeclaratorDoc.afterSpecifiers_indented (.inl indented))))
  · rcases List.mem_cons.mp member with rfl | later
    · exact .append_left (.append_left (.append_right
        (DeclaratorDoc.afterSpecifiers_indented (.inr indented))))
    · refine .append_left (.append_right (.concat ?_))
      rw [List.map_map]
      exact AnyIndented.map ⟨shape, later, indented⟩ fun _ indented =>
        .append_right (DeclaratorDoc.Indented.standalone indented)

theorem staticAssert_indented {message : Option (Drawn .expression)}
    (one : value.Indented ∨ PartIndented message) : (staticAssert value message).Indented 0 := by
  unfold staticAssert
  rcases one with indented | one
  · grind
  · exact .append_left (.append_right (one.map fun _ indented => by grind))

end

section

variable {value : Drawn .expression} {body : Drawn .statement} {statements : List (Drawn .statement)}
  {closing : List String} {least : Nat} {init : Option (Drawn .statement)} {test : Doc}

theorem statementLine_indented (indented : body.Indented) : (statementLine body).Indented 0 := by
  unfold statementLine
  have drawn : Doc.Indented 0 body.drawing := indented
  split
  refine .append_right ?_
  split <;> grind

theorem statementLine_margin (written : body.tree.indentsAsItem = true) :
    (statementLine body).Indented 1 := by
  obtain ⟨tree, drawing⟩ := body
  obtain ⟨place, form, rfl⟩ : ∃ place form, tree = .statement place form := by
    cases tree
    exact ⟨_, _, rfl⟩
  cases comments : place.leadingComments.isEmpty with
  | false => exact .append_left (.commentLines comments)
  | true =>
    have plain : isDirectiveStatement form = false := by
      simpa [Tree.indentsAsItem, comments] using written
    unfold statementLine
    simp only [plain]
    exact .append_right (.append_left (.append_left (.append_left .margin)))

theorem statementLines_indented {isFirst behindLabel : Bool}
    (one : ∃ inner ∈ statements, (statementLine inner).Indented least) :
    (statementLines isFirst behindLabel statements).Indented least := by
  induction statements generalizing isFirst behindLabel with
  | nil => simp at one
  | cons first rest ih =>
    obtain ⟨inner, member, indented⟩ := one
    unfold statementLines
    rcases List.mem_cons.mp member with rfl | later
    · refine .append_left (.append_right ?_)
      split
      · exact .deeper (indented.mono (Nat.le_succ _))
      · exact indented
    · exact .append_right (ih ⟨inner, later, indented⟩)

theorem block_indented (one : AnyIndented statements) : (Render.block statements closing).Indented 0 := by
  obtain ⟨inner, member, indented⟩ := one
  refine braced_indented (.deeper (.append_left ((?_ : Doc.Indented 0 _).mono (Nat.zero_le _))))
  exact statementLines_indented ⟨inner, member, statementLine_indented indented⟩

theorem block_lines
    (one : (∃ inner ∈ statements, inner.tree.indentsAsItem = true) ∨ closing.isEmpty = false) :
    (Render.block statements closing).Indented 0 := by
  refine braced_indented (.deeper ?_)
  rcases one with ⟨inner, member, written⟩ | some
  · exact .append_left (statementLines_indented ⟨inner, member, statementLine_margin written⟩)
  · exact .append_right (.commentLines some)

@[grind ←]
theorem subStatement_indented (indented : body.Indented) : (subStatement body).Indented 0 := by
  unfold subStatement
  split
  dsimp only
  split
  · exact .append_right (.append_left indented)
  · have deep : Doc.Indented 1 body.drawing := Doc.Indented.mono indented (Nat.zero_le _)
    exact .append_right (.deeper (.append_right (.append_left deep)))

theorem initStatement_indented (one : PartIndented init) :
    (initStatement (init.map (·.drawing))).Indented 0 := by
  unfold initStatement
  rw [Option.map_map]
  exact one.map fun _ indented => .append_left indented

theorem header_indented (one : PartIndented init ∨ test.Indented 0) :
    (initStatement (init.map (·.drawing)) ++ test).parenthesized.Indented 0 := by
  rcases one with one | indented
  · exact .parenthesized (.append_left (initStatement_indented one))
  · exact .parenthesized (.append_right indented)

theorem thenPart_indented {braces : Bool} (indented : body.Indented) :
    (thenPart braces body).Indented 0 := by
  unfold thenPart
  split
  · have deep := (statementLine_indented indented).mono (Nat.zero_le 1)
    exact .append_right (braced_indented (.deeper deep))
  · exact subStatement_indented indented

theorem elsePart_indented (indented : body.Indented) : (elsePart body).Indented 0 := by
  unfold elsePart
  split
  split
  · exact .append_left (.append_right indented)
  · exact subStatement_indented indented

theorem ifStatement_indented {isConstexpr : Bool} {elseBranch : Option (Drawn .statement)}
    (one : PartIndented init ∨ test.Indented 0 ∨ body.Indented ∨ PartIndented elseBranch) :
    (ifStatement isConstexpr (init.map (·.drawing)) test body elseBranch).Indented 0 := by
  unfold ifStatement
  rcases one with one | indented | indented | one
  · exact .append_left (.append_left (.append_right (header_indented (.inl one))))
  · exact .append_left (.append_left (.append_right (header_indented (.inr indented))))
  · exact .append_left (.append_right (thenPart_indented indented))
  · exact .append_right (one.map fun _ indented => .append_right (elsePart_indented indented))

theorem switchStatement_indented (one : PartIndented init ∨ test.Indented 0 ∨ body.Indented) :
    (switchStatement (init.map (·.drawing)) test body).Indented 0 := by
  unfold switchStatement
  rcases one with one | indented | indented
  · exact .append_left (.append_right (header_indented (.inl one)))
  · exact .append_left (.append_right (header_indented (.inr indented)))
  · exact .append_right (subStatement_indented indented)

theorem testExpression_indented (indented : value.Indented) : (testExpression value).Indented 0 := by
  unfold testExpression
  split <;> grind

theorem forStatement_indented {test : Option (Drawn .condition)} {step : Option (Drawn .expression)}
    (one : PartIndented init ∨ PartIndented test ∨ PartIndented step ∨ body.Indented) :
    (forStatement (init.map (·.drawing)) (test.map (·.drawing)) step body).Indented 0 := by
  unfold forStatement
  rcases one with ⟨inner, rfl, indented⟩ | one | one | indented
  · have drawn : Doc.Indented 0 inner.drawing := indented
    exact .append_left (.append_left (.append_left (.append_left (.append_left (.append_right drawn)))))
  · have there : (spacedBefore (test.map (·.drawing))).Indented 0 :=
      spacedBefore_indented one fun _ indented => indented
    grind
  · have there : (spacedBefore (step.map (·.anyExpression))).Indented 0 :=
      spacedBefore_indented one fun _ => Drawn.anyExpression_indented
    grind
  · exact .append_right (subStatement_indented indented)

theorem rangeFor_indented {element : Doc}
    (one : PartIndented init ∨ element.Indented 0 ∨ value.Indented ∨ body.Indented) :
    (rangeFor (init.map (·.drawing)) element value body).Indented 0 := by
  unfold rangeFor
  rcases one with one | indented | indented | indented
  · have there := initStatement_indented one
    exact .append_left (.append_left (.append_left (.append_left (.append_left (.append_right there)))))
  · have drawn : Doc.Indented 0 element := indented
    grind
  · grind
  · grind

theorem whileStatement_indented (one : test.Indented 0 ∨ body.Indented) :
    (whileStatement test body).Indented 0 := by
  rcases one with indented | indented
  · exact .append_left (.append_right (.parenthesized indented))
  · exact .append_right (subStatement_indented indented)

theorem doStatement_indented (one : body.Indented ∨ value.Indented) :
    (doStatement body value).Indented 0 := by
  unfold doStatement
  grind

theorem expressionStatement_indented (indented : value.Indented) :
    (expressionStatement value).Indented 0 := by
  intro layout deep
  have wide := Drawn.anyExpression_indented indented layout deep
  unfold expressionStatement
  dsimp only
  split <;> simp only [String.utf8ByteSize_append] <;> omega

theorem returnStatement_indented {part : Option (Drawn .expression)} (one : PartIndented part) :
    (returnStatement part).Indented 0 :=
  .append_left (.append_right (spacedBefore_indented one fun _ => Drawn.anyExpression_indented))

theorem handler_indented {param : Option (Drawn .parameter)} {body : Doc}
    (one : PartIndented param ∨ body.Indented 0) :
    (handler (param.map (·.drawing)) body).Indented 0 := by
  rcases one with ⟨inner, rfl, indented⟩ | indented
  · exact .append_left (.append_left (.append_right (.parenthesized (indented false))))
  · exact .append_right indented

theorem tryStatement_indented {body : Doc} {handlers : List (Drawn .handler)}
    (one : body.Indented 0 ∨ AnyIndented handlers) :
    (tryStatement body (handlers.map (·.drawing))).Indented 0 := by
  rcases one with indented | one
  · exact .append_left (.append_right indented)
  · exact .append_right (.concat (one.map fun _ indented => indented))

end

end Render

end CppSyntax
