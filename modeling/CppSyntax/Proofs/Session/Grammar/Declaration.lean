import CppSyntax.Proofs.Session.Grammar.Expression

set_option synthInstance.maxSize 4096

/-!
The routines for declarations mirror their parsers. A form of a declaration reads a token, so that the
comment behind it belongs to a token that both have seen.
-/

namespace CppSyntax.Grammar

open CppSyntax.Parser

variable {L : Likeness} {moves : Bool} {g : Grammar Routine} {h : Grammar Parser}
  [paired : Paired L g h]

theorem standingAlone_view {detail : Detail} (specs : ParsedSpecifiers) :
    view detail (Tree.standingAlone specs) = Tree.standingAlone (view detail specs) := by
  unfold Tree.standingAlone
  have bare : ((view detail specs).attributes.isEmpty && (view detail specs).alignment.isEmpty &&
      (view detail specs).modifiers.isEmpty && !(view detail specs).isTypedef) =
      (specs.attributes.isEmpty && specs.alignment.isEmpty && specs.modifiers.isEmpty &&
        !specs.isTypedef) := rfl
  rw [bare, show (view detail specs).type = view detail specs.type from rfl]
  have rest : view detail (Tree.variable specs.tree .nil) =
      .variable (view detail specs).tree .nil :=
    congrArg (Tree.variable · .nil) specs.tree_view
  generalize (specs.attributes.isEmpty && specs.alignment.isEmpty && specs.modifiers.isEmpty &&
    !specs.isTypedef) = bare
  cases bare with
  | false => exact rest
  | true =>
    obtain none | type := specs.type
    · exact rest
    · cases type with
      | classType cv => obtain ⟨_ | _, _ | _⟩ := cv <;> first | rfl | exact rest
      | enumType cv => obtain ⟨_ | _, _ | _⟩ := cv <;> first | rfl | exact rest
      | elaboratedType cv key =>
        obtain ⟨_ | _, _ | _⟩ := cv <;> cases key <;> first | rfl | exact rest
      | _ => exact rest

instance {detail : Detail} (specs : Likes detail ParsedSpecifiers) :
    Same detail (Tree.standingAlone specs.fst) (Tree.standingAlone specs.snd) :=
  specs.same.map standingAlone_view

def isParenInit : Tree .initializer → Bool
  | .parenInit _ => true
  | _ => false

theorem isParenInit_view {detail : Detail} (init : Tree .initializer) :
    isParenInit (view detail init) = isParenInit init := by
  cases init <;> rfl

section

include paired

instance : Mirrors L false g.namespacePath h.namespacePath := by
  unfold Grammar.namespacePath
  infer_instance

private theorem namespaceBody_mirrors (path : List String) (isInline : Bool) :
    Mirrors L false
      (braced "namespace body" (g.itemsUntil .rightBrace (g.declaration .inNamespace)) >>=
        fun body => pure (Tree.namespaceBlock path isInline (.ofList body.1) body.2))
      (braced "namespace body" (h.itemsUntil .rightBrace (h.declaration .inNamespace)) >>=
        fun body => pure (Tree.namespaceBlock path isInline (.ofList body.1) body.2)) := by
  have members : Mirrors L false (g.itemsUntil .rightBrace (g.declaration .inNamespace))
      (h.itemsUntil .rightBrace (h.declaration .inNamespace)) := inferInstance
  refine ⟨(braced_mirrors _ members).weaken.andThen fun first second body => .pure ?_⟩
  have members : Same L.detail first.1 second.1 := body.1
  exact .namespaceBlock inferInstance body.2

instance namespaceForm_mirrors (isInline : Bool) :
    Mirrors L true (g.namespaceForm isInline) (h.namespaceForm isInline) := by
  unfold Grammar.namespaceForm
  refine .andThenRead fun _ => .andThenSame fun path => ?_
  split
  · exact .andThenSame fun aliased =>
      .choose inferInstance (namespaceBody_mirrors _ isInline)
  · exact namespaceBody_mirrors path isInline

instance : Mirrors L true g.aliasForm h.aliasForm := by
  unfold Grammar.aliasForm
  infer_instance

instance : Mirrors L true g.usingForm h.usingForm := by
  unfold Grammar.usingForm
  infer_instance

instance (scope : Scope) (purpose : String) :
    Mirrors L false (g.requiredDeclaration scope purpose) (h.requiredDeclaration scope purpose) := by
  unfold Grammar.requiredDeclaration
  infer_instance

instance templateForm_mirrors (scope : Scope) :
    Mirrors L true (g.templateForm scope) (h.templateForm scope) := by
  unfold Grammar.templateForm
  refine .andThenRead fun _ => ?_
  refine .byPlace fun sights => ?_
  have instantiates : sights.fst.isAt .less = sights.snd.isAt .less := Equal.eq
  rw [instantiates]
  infer_instance

/-- The first of the two tokens that are passed is not the end token. -/
private theorem linkageForm_mirrors {session : Session} {state : State}
    (meets : L.Meets session state) (inside : state.atEnd = false) (abi : String) :
    MirrorsAt L session state true (Same L.detail · ·) (g.linkageForm abi) (h.linkageForm abi) := by
  unfold Grammar.linkageForm
  exact .advanceByThen meets inside 1

instance : Mirrors L false g.assertedClauses h.assertedClauses := by
  unfold Grammar.assertedClauses
  infer_instance

instance : Mirrors L true g.staticAssertForm h.staticAssertForm := by
  unfold Grammar.staticAssertForm
  infer_instance

instance : Mirrors L false g.virtualWords h.virtualWords := by
  unfold Grammar.virtualWords
  infer_instance

instance : Mirrors L false g.memberInit h.memberInit := by
  unfold Grammar.memberInit
  infer_instance

omit paired in
instance assignedBody_mirrors :
    Mirrors L false (assignedBody : Routine (Tree .functionBody)) assignedBody := by
  unfold Grammar.assignedBody
  refine .andThenSame fun _ => .choose inferInstance ?_
  refine .andThenSame fun _ => .choose inferInstance (.byPlace fun sights => ?_)
  rw [sights.sees.kind]
  infer_instance

instance : Mirrors L true g.functionBody h.functionBody := by
  unfold Grammar.functionBody
  infer_instance

instance functionForm_mirrors (specs : Likes L.detail ParsedSpecifiers)
    (pointers : Likes L.detail (Trees .pointerOperator)) (titles : Likes L.detail Name)
    (sigs : Likes L.detail (Tree .signature)) :
    Mirrors L true (g.functionForm specs.fst pointers.fst titles.fst sigs.fst)
      (h.functionForm specs.snd pointers.snd titles.snd sigs.snd) := by
  unfold Grammar.functionForm
  infer_instance

instance : Mirrors L false g.initializer h.initializer := by
  unfold Grammar.initializer
  infer_instance

instance (scope : Scope) : Mirrors L false (g.memberDeclarator scope) (h.memberDeclarator scope) := by
  unfold Grammar.memberDeclarator
  infer_instance

instance (scope : Scope) : Mirrors L false (g.bitWidth scope) (h.bitWidth scope) := by
  unfold Grammar.bitWidth
  infer_instance

instance (scope : Scope) (shapes : Likes L.detail Declarator) :
    Mirrors L false (g.initDeclarators scope shapes.fst) (h.initDeclarators scope shapes.snd) := by
  unfold Grammar.initDeclarators
  infer_instance

instance (specs : Likes L.detail ParsedSpecifiers) (shapes : Likes L.detail Declarator) :
    Mirrors L true (g.typedefForm specs.fst shapes.fst) (h.typedefForm specs.snd shapes.snd) := by
  unfold Grammar.typedefForm
  infer_instance

instance (scope : Scope) (specs : Likes L.detail ParsedSpecifiers)
    (shapes : Likes L.detail Declarator) :
    Mirrors L true (g.variableForm scope specs.fst shapes.fst)
      (h.variableForm scope specs.snd shapes.snd) := by
  unfold Grammar.variableForm
  infer_instance

instance simpleForm_mirrors (scope : Scope) :
    Mirrors L true (g.simpleForm scope) (h.simpleForm scope) := by
  unfold Grammar.simpleForm
  refine .andThen fun specs => ?_
  refine .acceptElse inferInstance (.andThen fun shapes => .choose inferInstance ?_)
  have functions : Same L.detail shapes.fst.asFunction? shapes.snd.asFunction? := inferInstance
  rcases functions.options with ⟨left, right⟩ | ⟨function, left, right⟩
  · rw [left, right]
    infer_instance
  · obtain ⟨⟨pointers, title, sig⟩, ⟨pointers', title', sig'⟩, same⟩ := function
    have form := functionForm_mirrors (g := g) (h := h) specs ⟨_, _, ⟨congrArg Prod.fst same.eq⟩⟩
      ⟨_, _, ⟨congrArg (·.2.1) same.eq⟩⟩ ⟨_, _, ⟨congrArg (·.2.2) same.eq⟩⟩
    rw [left, right]
    infer_instance

/-- A keyword is no end token, and so a form that passes it reads a token. -/
private theorem keywordForm_mirrors (scope : Scope) {session : Session} {state : State}
    (meets : L.Meets session state) {word : Keyword} (here : state.kind = .keyword word) :
    MirrorsAt L session state true (Same L.detail · ·) (g.keywordForm scope word)
      (h.keywordForm scope word) := by
  have inside := State.inside_of_kind here (by simp)
  unfold Grammar.keywordForm
  refine .here ?_
  rw [meets.sees.ahead]
  split
  · exact (inferInstance : Mirrors L true _ _).mirrors session state meets
  · exact (inferInstance : Mirrors L true _ _).mirrors session state meets
  · exact (inferInstance : Mirrors L true _ _).mirrors session state meets
  · exact (inferInstance : Mirrors L true _ _).mirrors session state meets
  · exact linkageForm_mirrors meets inside _
  · exact (inferInstance : Mirrors L true _ _).mirrors session state meets
  · split
    · exact (inferInstance : Mirrors L true _ _).mirrors session state meets
    · exact (inferInstance : Mirrors L true _ _).mirrors session state meets

instance declarationForm_mirrors (scope : Scope) :
    Mirrors L true (g.declarationForm scope) (h.declarationForm scope) := by
  unfold Grammar.declarationForm
  refine ⟨.byPlace fun session state meets => ?_⟩
  rw [meets.sees.kind]
  split
  · rename_i text here
    exact .advanceThen meets (State.inside_of_kind here nofun) inferInstance
  · rename_i word here
    exact keywordForm_mirrors scope meets here
  · exact (inferInstance : Mirrors L true _ _).mirrors session state meets

instance declarationRule_mirrors (scope : Scope) :
    Mirrors L false (g.declarationRule scope) (h.declarationRule scope) := by
  unfold Grammar.declarationRule
  refine ⟨.nested ?_⟩
  refine .andThen (inferInstance : Mirrors L false _ _).mirrors fun place place' places => ?_
  refine .andThen (inferInstance : Mirrors L false _ _).mirrors fun empty _ same => ?_
  obtain rfl := same.to_eq
  split
  · exact .pure (.refl none)
  · refine (inferInstance : Mirrors L true _ _).mirrors.behind (fun form form' forms => ?_) |>.weaken
    have ends := forms.equal Tree.endsInDeclaration_view
    refine .ownTrailing ends fun comment comment' comments => ?_
    have place := places.withTrailing comments
    exact .of_mirrors (.pure inferInstance)

instance : Mirrors L false g.loneSpecifiers h.loneSpecifiers := by
  unfold Grammar.loneSpecifiers
  infer_instance

instance conditionDeclaration_mirrors :
    Mirrors L false g.conditionDeclaration h.conditionDeclaration := by
  unfold Grammar.conditionDeclaration
  refine .andThen fun places => .andThen fun specs => .andThen fun shapes => .andThen fun inits => ?_
  rcases inits.same.options with ⟨left, right⟩ | ⟨init, left, right⟩
  · rw [left, right]
    infer_instance
  · have parens := init.same.equal isParenInit_view
    rw [left, right]
    obtain ⟨first, second, same⟩ := init
    dsimp only at parens ⊢
    cases first <;> cases second <;> first | (cases parens; done) | infer_instance

instance : Mirrors L false g.rangeDeclaration h.rangeDeclaration := by
  unfold Grammar.rangeDeclaration
  infer_instance

end

end CppSyntax.Grammar
