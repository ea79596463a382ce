import CppSyntax.Proofs.Session.Nodes

/-!
What rules find out about the values that they pass on. None of it depends on the layout, and what they
make of a value counts for the same when the values do.
-/

namespace CppSyntax

variable {detail : Detail}

theorem Tree.segmentIdent?_view (segment : Tree .segment) :
    (view detail segment).segmentIdent? = segment.segmentIdent? := by
  cases segment <;> rfl

theorem Tree.plainIdent?_view (segment : Tree .segment) :
    (view detail segment).plainIdent? = segment.plainIdent? := by
  cases segment <;> rfl

theorem Tree.isTemplateId_view (segment : Tree .segment) :
    (view detail segment).isTemplateId = segment.isTemplateId := by
  cases segment <;> rfl

theorem Tree.segments_view (name : Name) :
    (view detail name).segments = view detail name.segments := by
  cases name with
  | qualifiedName isGlobal segments => exact Trees.toList_without _ _

instance {name other : Name} [same : Same detail name other] :
    Same detail name.segments other.segments :=
  same.map fun name => name.segments_view.symm

theorem Tree.lastIdent?_view (name : Name) : (view detail name).lastIdent? = name.lastIdent? := by
  show (view detail name).segments.getLast?.bind _ = _
  rw [segments_view]
  show (name.segments.map _).getLast?.bind _ = name.segments.getLast?.bind _
  rw [List.getLast?_map]
  cases name.segments.getLast? with
  | none => rfl
  | some segment => exact segment.segmentIdent?_view

instance (names : Likes detail Name) : Equal names.fst.lastIdent? names.snd.lastIdent? :=
  ⟨names.same.equal fun name => name.lastIdent?_view⟩

theorem Tree.declaredName?_view {c : Category} (tree : Tree c) :
    (view detail tree).declaredName? = view detail tree.declaredName? := by
  apply @Tree.rec (fun _ tree => (view detail tree).declaredName? = view detail tree.declaredName?)
    (fun _ _ => True) (fun _ _ => True)
  all_goals intros
  all_goals first
    | rfl
    | trivial

theorem Trees.declaredIdents_view (shapes : Trees .declarator) :
    (view detail shapes).declaredIdents = shapes.declaredIdents := by
  show List.filterMap _ (view detail shapes).toList = List.filterMap _ shapes.toList
  rw [show (view detail shapes).toList = _ from Trees.toList_without _ _, List.filterMap_map]
  refine congrArg (List.filterMap · _) (funext fun shape => ?_)
  show (view detail shape).declaredName?.bind _ = shape.declaredName?.bind _
  rw [Tree.declaredName?_view]
  show (shape.declaredName?.map _).bind _ = _
  cases shape.declaredName? with
  | none => rfl
  | some name => exact name.lastIdent?_view

instance declaredIdents_equal (shapes : Likes detail (List Declarator)) :
    Equal (Trees.ofList shapes.fst).declaredIdents (Trees.ofList shapes.snd).declaredIdents :=
  ⟨Same.equal (inferInstance : Same detail (Trees.ofList shapes.fst) (Trees.ofList shapes.snd))
    fun shapes => shapes.declaredIdents_view⟩

theorem Tree.parameterTypeName?_view (param : Tree .templateParameter) :
    (view detail param).parameterTypeName? = param.parameterTypeName? := by
  cases param <;> rfl

instance parameterTypeNames_equal (params : Likes detail (List (Tree .templateParameter))) :
    Equal (params.fst.filterMap (·.parameterTypeName?))
      (params.snd.filterMap (·.parameterTypeName?)) :=
  ⟨params.same.equal (f := fun params => params.filterMap (·.parameterTypeName?)) fun params => by
    show (params.map _).filterMap _ = _
    rw [List.filterMap_map]
    exact congrArg (List.filterMap · _) (funext Tree.parameterTypeName?_view)⟩

instance hasTemplateId_equal (names : Likes detail Name) :
    Equal (names.fst.segments.any (·.isTemplateId)) (names.snd.segments.any (·.isTemplateId)) :=
  ⟨names.same.equal (f := fun name => name.segments.any (·.isTemplateId)) fun name => by
    show (view detail name).segments.any _ = _
    rw [Tree.segments_view]
    show (name.segments.map _).any _ = _
    rw [List.any_map]
    exact congrArg (List.any _ ·) (funext Tree.isTemplateId_view)⟩

instance namesFunction_equal (names : Likes detail Name) (scope : Scope) (enclosing : Option String)
    {here there : Bool} [marks : Equal here there] :
    Equal (names.fst.namesFunction scope enclosing here)
      (names.snd.namesFunction scope enclosing there) :=
  ⟨by
    have segments : Same detail names.fst.segments.reverse names.snd.segments.reverse :=
      inferInstance
    unfold Tree.namesFunction
    rw [marks.eq]
    rcases segments.lists with ⟨left, right⟩ | ⟨last, before, left, right⟩
    · rw [left, right]
    · have ident := last.same.equal Tree.plainIdent?_view
      have qualifier : before.fst.head?.bind (·.plainIdent?) =
          before.snd.head?.bind (·.plainIdent?) := by
        rcases before.same.lists with ⟨left, right⟩ | ⟨first, rest, left, right⟩
        · rw [left, right]
        · rw [left, right]
          exact first.same.equal Tree.plainIdent?_view
      rw [left, right]
      dsimp only
      rw [ident, qualifier, before.same.isEmpty]⟩

theorem Tree.isPlain_view (shape : Declarator) : (view detail shape).isPlain = shape.isPlain := by
  cases shape with
  | declarator pointers pack core suffixes =>
    cases pointers <;> cases pack <;> cases core <;> cases suffixes <;> rfl

theorem Tree.hasReference_view (shape : Declarator) :
    (view detail shape).hasReference = shape.hasReference := by
  cases shape with
  | declarator pointers pack core suffixes =>
    show (pointers.without _).toList.any _ = pointers.toList.any _
    rw [Trees.toList_without, List.any_map]
    refine congrArg (List.any _ ·) (funext fun pointer => ?_)
    cases pointer <;> rfl

theorem Tree.isPlausible_view (shape : Declarator) :
    (view detail shape).isPlausible = shape.isPlausible := by
  cases shape with
  | declarator pointers pack core suffixes =>
    cases core with
    | nestedDeclarator inner =>
      cases inner with
      | declarator pointers => cases pointers <;> cases suffixes <;> rfl
    | _ => rfl

instance (shapes : Likes detail Declarator) : Equal shapes.fst.isPlain shapes.snd.isPlain :=
  ⟨shapes.same.equal Tree.isPlain_view⟩

instance (shapes : Likes detail Declarator) :
    Equal shapes.fst.hasReference shapes.snd.hasReference :=
  ⟨shapes.same.equal Tree.hasReference_view⟩

instance (shapes : Likes detail Declarator) : Equal shapes.fst.isPlausible shapes.snd.isPlausible :=
  ⟨shapes.same.equal Tree.isPlausible_view⟩

theorem Tree.asFunction?_view (shape : Declarator) :
    (view detail shape).asFunction? = view detail shape.asFunction? := by
  cases shape with
  | declarator pointers pack core suffixes =>
    cases pack <;> cases core <;> cases suffixes with
    | nil => rfl
    | cons suffix suffixes => cases suffix <;> cases suffixes <;> rfl

instance (shapes : Likes detail Declarator) :
    Same detail shapes.fst.asFunction? shapes.snd.asFunction? :=
  shapes.same.map fun shape => shape.asFunction?_view.symm

theorem Tree.endsInDeclaration_view (form : Tree .declarationForm) :
    (view detail form).endsInDeclaration = form.endsInDeclaration := by
  cases form <;> rfl

theorem Tree.endsInStatement_view (form : Tree .statementForm) :
    (view detail form).endsInStatement = form.endsInStatement := by
  cases form <;> rfl

theorem Tree.qualify_view (cv : Qualifiers) (type : TypeSpecifier) :
    view detail (type.qualify cv) = (view detail type).qualify cv := by
  cases type <;> rfl

theorem Tree.withBound_view (target : TypeId) (bound : Expr) :
    view detail (target.withBound bound) = (view detail target).withBound (view detail bound) := by
  cases target with
  | typeId spec shape =>
    cases shape with
    | declarator pointers pack core suffixes =>
      show Tree.typeId _ (.declarator _ pack _ ((Trees.ofList _).without _)) =
        Tree.typeId _ (.declarator _ pack _ (.ofList ((suffixes.without _).toList ++ _)))
      rw [Trees.without_ofList, Trees.toList_without, List.map_append]
      rfl

instance {a b : TypeId} {x y : Expr} [target : Same detail a b] [bound : Same detail x y] :
    Same detail (a.withBound x) (b.withBound y) :=
  target.map₂ bound Tree.withBound_view

theorem ParsedSpecifiers.tree_view (specs : ParsedSpecifiers) :
    view detail specs.tree = (view detail specs).tree :=
  congrArg (Tree.specifiers specs.attributes specs.alignment specs.modifiers ·)
    (Part.without_ofOption _ specs.type)

instance {a b : ParsedSpecifiers} [same : Same detail a b] : Same detail a.tree b.tree :=
  same.map ParsedSpecifiers.tree_view

section

variable (pair : Likes detail ParsedSpecifiers)

instance : Same detail pair.fst.type pair.snd.type := pair.same.map fun _ => rfl

instance : Equal pair.fst.type.isNone pair.snd.type.isNone :=
  ⟨pair.same.equal (f := (·.type.isNone)) fun _ => Option.isNone_map ..⟩

instance : Equal pair.fst.modifiers pair.snd.modifiers := ⟨pair.same.equal fun _ => rfl⟩

instance : Equal pair.fst.isTypedef pair.snd.isTypedef := ⟨pair.same.equal fun _ => rfl⟩

instance : Equal pair.fst.certain pair.snd.certain := ⟨pair.same.equal fun _ => rfl⟩

end

namespace Grammar

section

variable {a b : SpecifierDraft} [same : Same detail a b]

include same

instance : Same detail a.sure b.sure := same.map fun _ => rfl

instance {type other : TypeSpecifier} [types : Same detail type other] :
    Same detail (a.withType type) (b.withType other) := same.map₂ types fun _ _ => rfl

instance (text : String) : Same detail (a.withAttribute text) (b.withAttribute text) :=
  same.map (f := (·.withAttribute text)) fun _ => rfl

instance (text : String) : Same detail (a.withAlignment text) (b.withAlignment text) :=
  same.map (f := (·.withAlignment text)) fun _ => rfl

instance (modifier : Modifier) :
    Same detail (a.withModifier modifier) (b.withModifier modifier) :=
  same.map (f := (·.withModifier modifier)) fun _ => rfl

end

section

variable (pair : Likes detail SpecifierDraft)

instance draftTypedef_same : Same detail
    { pair.fst with specs := { pair.fst.specs with isTypedef := true } }
    { pair.snd with specs := { pair.snd.specs with isTypedef := true } } :=
  pair.same.map (f := fun draft => { draft with specs := { draft.specs with isTypedef := true } })
    fun _ => rfl

instance draftConst_same : Same detail { pair.fst with cv := { pair.fst.cv with isConst := true } }
    { pair.snd with cv := { pair.snd.cv with isConst := true } } :=
  pair.same.map (f := fun draft => { draft with cv := { draft.cv with isConst := true } })
    fun _ => rfl

instance draftVolatile_same : Same detail { pair.fst with cv := { pair.fst.cv with isVolatile := true } }
    { pair.snd with cv := { pair.snd.cv with isVolatile := true } } :=
  pair.same.map (f := fun draft => { draft with cv := { draft.cv with isVolatile := true } })
    fun _ => rfl

instance draftWord_same (text : String) : Same detail { pair.fst with words := pair.fst.words ++ [text] }
    { pair.snd with words := pair.snd.words ++ [text] } :=
  pair.same.map (f := fun draft => { draft with words := draft.words ++ [text] }) fun _ => rfl

instance : Same detail pair.fst.specs pair.snd.specs := pair.same.map fun _ => rfl

instance specifiersType_same {type other : TypeSpecifier} [types : Same detail type other] :
    Same detail { pair.fst.specs with type := some type }
      { pair.snd.specs with type := some other } :=
  pair.same.map₂ types (f := fun draft type => { draft.specs with type := some type })
    fun _ _ => rfl

instance : Equal pair.fst.cv pair.snd.cv := ⟨pair.same.equal fun _ => rfl⟩

instance hasType_equal : Equal pair.fst.hasType pair.snd.hasType :=
  ⟨pair.same.equal (f := SpecifierDraft.hasType) fun draft => by
    show ((draft.specs.type.map _).isSome || _) = _
    rw [Option.isSome_map]
    rfl⟩

instance : Equal pair.fst.specs.type.isNone pair.snd.specs.type.isNone :=
  ⟨pair.same.equal (f := (·.specs.type.isNone)) fun _ => Option.isNone_map ..⟩

instance draftType_same : Same detail pair.fst.type? pair.snd.type? :=
  pair.same.map fun draft => by
    unfold SpecifierDraft.type?
    show Option.map _ _ = if draft.words.isEmpty then (draft.specs.type.map _).map _ else _
    split
    · rw [Option.map_map, Option.map_map]
      exact congrArg (Option.map · _) (funext fun type => type.qualify_view draft.cv)
    · rfl

end

end Grammar

end CppSyntax
