import CppSyntax.Proofs.Session.Composition

set_option synthInstance.maxSize 4096

/-!
The routines for names, and those that the areas of the grammar share, mirror their parsers.
-/

namespace CppSyntax.Grammar

open CppSyntax.Parser

variable {L : Likeness} {moves : Bool} {g : Grammar Routine} {h : Grammar Parser}
  [paired : Paired L g h]

instance optionalIdentifier_mirrors :
    Mirrors L false (optionalIdentifier : Routine (Option String)) optionalIdentifier := by
  unfold Parser.optionalIdentifier
  refine ⟨.bySight fun a b sees => ?_⟩
  rw [sees.kind]
  split
  · exact (inferInstance : Mirrors L false _ _).mirrors
  · exact (inferInstance : Mirrors L false _ _).mirrors

instance expectIdentifier_mirrors (purpose : String) :
    Mirrors L moves (expectIdentifier purpose : Routine String) (expectIdentifier purpose) := by
  refine .anywhere ⟨?_⟩
  unfold Parser.expectIdentifier Parser.optionalIdentifier
  rw [Routine.bind_here, Parser.bind_here]
  refine .byPlace fun session state meets => ?_
  rw [meets.sees.kind]
  split
  · rename_i ident known
    exact (MirrorsAt.advance meets (State.inside_of_kind known nofun)).bind fun _ _ _ =>
      .pure (.refl ident)
  · exact MirrorsBy.fail _ session state meets

instance {kind other : TokenKind} [equal : Equal kind other] :
    Equal (canFollowTemplateId kind) (canFollowTemplateId other) :=
  ⟨congrArg _ equal.eq⟩

instance {kind other : TokenKind} [equal : Equal kind other] :
    Equal (continuesName kind) (continuesName other) :=
  ⟨congrArg _ equal.eq⟩

theorem markSymbol?_seen {mark : Punctuator} {first second : State} (sees : L.Sees first second)
    (here : second.kind = .punctuator mark) : markSymbol? mark first = markSymbol? mark second := by
  unfold markSymbol?
  by_cases greater : mark = .greater
  · subst greater
    have shift := sees.joined here (.inl rfl)
    have assigned := sees.joined here (.inr rfl)
    simp only [Bool.and_assoc, shift, assigned]
    simp only [State.isAhead, sees.ahead]
    rfl
  · simp [greater, State.isAhead, sees.ahead]

section

include paired

instance (scope : Scope) : Mirrors L false (g.declaration scope) (h.declaration scope) :=
  paired.mirrors (.declaration scope)

instance : Mirrors L false g.statement h.statement := paired.mirrors .statement

instance : Mirrors L false g.clause h.clause := paired.mirrors .clause

instance : Mirrors L false g.assignment h.assignment := paired.mirrors .assignment

instance (level : Nat) : Mirrors L false (g.binary level) (h.binary level) :=
  paired.mirrors (.binary level)

instance : Mirrors L false g.cast h.cast := paired.mirrors .cast

instance : Mirrors L false g.unary h.unary := paired.mirrors .unary

instance (scope : Scope) : Mirrors L false (g.specifiers scope) (h.specifiers scope) :=
  paired.mirrors (.specifiers scope)

instance (mode : DeclaratorMode) : Mirrors L false (g.declarator mode) (h.declarator mode) :=
  paired.mirrors (.declarator mode)

instance : Mirrors L false g.name h.name := paired.mirrors (.name false)

instance : Mirrors L false g.nameInExpression h.nameInExpression := paired.mirrors (.name true)

instance : Mirrors L false g.templateParameters h.templateParameters :=
  paired.mirrors .templateParameters

instance [Viewed α] {item : Routine α} {item' : Parser α} [Mirrors L false item item'] :
    Mirrors L false (g.separated item) (h.separated item') := by
  unfold Grammar.separated
  infer_instance

instance [Viewed α] {item : Routine (Option α)} {item' : Parser (Option α)} [Mirrors L false item item']
    (close : Punctuator) : Mirrors L false (g.itemsUntil close item) (h.itemsUntil close item') := by
  unfold Grammar.itemsUntil
  infer_instance

instance {left other : Expr} [Same L.detail left other] :
    Mirrors L false (g.commaStep left) (h.commaStep other) := by
  unfold Grammar.commaStep
  infer_instance

instance : Mirrors L false g.expression h.expression := by
  unfold Grammar.expression
  infer_instance

instance : Mirrors L false g.bracketed h.bracketed := by
  unfold Grammar.bracketed
  infer_instance

instance : Mirrors L false g.conditional h.conditional := by
  unfold Grammar.conditional
  infer_instance

instance (close : Punctuator) {items others : List Expr} [Same L.detail items others] :
    Mirrors L false (g.listStep close items) (h.listStep close others) := by
  unfold Grammar.listStep
  infer_instance

instance (close : Punctuator) : Mirrors L false (g.expressionList close) (h.expressionList close) := by
  unfold Grammar.expressionList
  infer_instance

instance bracedList_mirrors : Mirrors L moves g.bracedList h.bracedList := by
  refine .anywhere ?_
  unfold Grammar.bracedList
  infer_instance

instance : Mirrors L false g.expressionOrBraced h.expressionOrBraced := by
  unfold Grammar.expressionOrBraced
  infer_instance

instance certainTypeSpecifier_mirrors :
    Mirrors L false g.certainTypeSpecifier h.certainTypeSpecifier := by
  unfold Grammar.certainTypeSpecifier
  refine .byPlace fun sights => .andThen fun specs => ?_
  have types : Same L.detail specs.fst.type specs.snd.type := inferInstance
  rcases types.options with ⟨left, right⟩ | ⟨type, left, right⟩
  all_goals
    rw [left, right]
    infer_instance

instance : Mirrors L false g.typeSpecifier h.typeSpecifier := by
  unfold Grammar.typeSpecifier
  infer_instance

instance : Mirrors L false g.certainTypeId h.certainTypeId := by
  unfold Grammar.certainTypeId
  infer_instance

instance : Mirrors L false g.typeId h.typeId := by
  unfold Grammar.typeId
  infer_instance

instance : Mirrors L false g.parenthesizedType h.parenthesizedType := by
  unfold Grammar.parenthesizedType
  infer_instance

instance : Mirrors L false g.qualifiers h.qualifiers := by
  unfold Grammar.qualifiers
  infer_instance

instance : Mirrors L false g.memberPointerScope h.memberPointerScope := by
  unfold Grammar.memberPointerScope
  infer_instance

instance : Mirrors L false g.pointerOperators h.pointerOperators := by
  unfold Grammar.pointerOperators
  infer_instance

instance (word : Keyword) :
    Mirrors L false (allocationSymbol word : Routine String) (allocationSymbol word) := by
  unfold Grammar.allocationSymbol
  infer_instance

instance (text : String) :
    Mirrors L false (literalSymbol text : Routine String) (literalSymbol text) := by
  unfold Grammar.literalSymbol
  infer_instance

instance operatorSymbol_mirrors :
    Mirrors L false (operatorSymbol : Routine (Option String)) operatorSymbol := by
  unfold Grammar.operatorSymbol
  refine .byPlace fun sights => ?_
  rw [sights.sees.kind]
  split
  · infer_instance
  · infer_instance
  · infer_instance
  · rename_i known
    rw [markSymbol?_seen sights.sees known]
    split <;> infer_instance
  · infer_instance

instance : Mirrors L false g.conversionTarget h.conversionTarget := by
  unfold Grammar.conversionTarget
  infer_instance

instance : Mirrors L false g.typeArgument h.typeArgument := by
  unfold Grammar.typeArgument
  infer_instance

instance : Mirrors L false g.templateArgument h.templateArgument := by
  unfold Grammar.templateArgument
  infer_instance

instance : Mirrors L false g.templateArguments h.templateArguments := by
  unfold Grammar.templateArguments
  infer_instance

instance (inExpression : Bool) :
    Mirrors L false (g.fittingTemplateArguments inExpression)
      (h.fittingTemplateArguments inExpression) := by
  unfold Grammar.fittingTemplateArguments
  infer_instance

instance (inExpression marked : Bool) :
    Mirrors L false (g.plainSegment inExpression marked) (h.plainSegment inExpression marked) := by
  unfold Grammar.plainSegment
  infer_instance

instance (inExpression : Bool) :
    Mirrors L false (g.segment inExpression) (h.segment inExpression) := by
  unfold Grammar.segment
  infer_instance

instance (inExpression : Bool) {segments others : List (Tree .segment)}
    [Same L.detail segments others] :
    Mirrors L false (g.nameStep inExpression segments) (h.nameStep inExpression others) := by
  unfold Grammar.nameStep
  infer_instance

instance (inExpression : Bool) :
    Mirrors L false (g.nameRule inExpression) (h.nameRule inExpression) := by
  unfold Grammar.nameRule
  infer_instance

end

end CppSyntax.Grammar
