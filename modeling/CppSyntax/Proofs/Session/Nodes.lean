import CppSyntax.Proofs.Session.Detail

/-!
Nodes count for the same when their parts do. Comments before closing braces are no parts of their
own; they count as far as the layout does.
-/

namespace CppSyntax

variable {detail : Detail}

instance [x : Same detail a a'] :
    Same detail (Tree.templateSegment ident a marked) (.templateSegment ident a' marked) :=
  x.map (f := (Tree.templateSegment ident · marked)) fun _ => rfl

instance [x : Same detail a a'] :
    Same detail (Tree.conversionSegment a marked) (.conversionSegment a' marked) :=
  x.map (f := (Tree.conversionSegment · marked)) fun _ => rfl

instance [x : Same detail a a'] :
    Same detail (Tree.qualifiedName isGlobal a) (.qualifiedName isGlobal a') := x.map fun _ => rfl

instance [x : Same detail a a'] : Same detail (Tree.typeArgument a) (.typeArgument a') :=
  x.map fun _ => rfl

instance [x : Same detail a a'] : Same detail (Tree.valueArgument a) (.valueArgument a') :=
  x.map fun _ => rfl

instance [x : Same detail a a'] : Same detail (Tree.packArgument a) (.packArgument a') :=
  x.map fun _ => rfl

instance [x : Same detail a a'] : Same detail (Tree.namedType cv a) (.namedType cv a') :=
  x.map fun _ => rfl

instance [x : Same detail a a'] :
    Same detail (Tree.elaboratedType cv key a) (.elaboratedType cv key a') := x.map fun _ => rfl

instance [x : Same detail a a'] : Same detail (Tree.decltypeType cv a) (.decltypeType cv a') :=
  x.map fun _ => rfl

instance [x : Same detail a a'] : Same detail (Tree.classType cv a) (.classType cv a') :=
  x.map fun _ => rfl

instance [x : Same detail a a'] : Same detail (Tree.enumType cv a) (.enumType cv a') :=
  x.map fun _ => rfl

instance [x : Same detail a a'] : Same detail (Tree.memberPointer a cv) (.memberPointer a' cv) :=
  x.map (f := (Tree.memberPointer · cv)) fun _ => rfl

instance [x : Same detail a a'] : Same detail (Tree.declaredName a) (.declaredName a') :=
  x.map fun _ => rfl

instance [x : Same detail a a'] : Same detail (Tree.nestedDeclarator a) (.nestedDeclarator a') :=
  x.map fun _ => rfl

instance [x : Same detail a a'] : Same detail (Tree.noexceptSpec a) (.noexceptSpec a') :=
  x.map fun _ => rfl

instance [x : Same detail a a'] : Same detail (Tree.throwSpec a) (.throwSpec a') :=
  x.map fun _ => rfl

instance [x : Same detail a a'] :
    Same detail (Tree.parameterList a variadic) (.parameterList a' variadic) :=
  x.map (f := (Tree.parameterList · variadic)) fun _ => rfl

instance [x : Same detail a a'] [y : Same detail b b'] [z : Same detail c c'] :
    Same detail (Tree.signature a cv reference b c) (.signature a' cv reference b' c') :=
  x.map₃ y z (f := fun a b c => Tree.signature a cv reference b c) fun _ _ _ => rfl

instance [x : Same detail a a'] : Same detail (Tree.arraySuffix a) (.arraySuffix a') :=
  x.map fun _ => rfl

instance [x : Same detail a a'] : Same detail (Tree.functionSuffix a) (.functionSuffix a') :=
  x.map fun _ => rfl

instance [x : Same detail a a'] [y : Same detail b b'] [z : Same detail c c'] :
    Same detail (Tree.declarator a pack b c) (.declarator a' pack b' c') :=
  x.map₃ y z (f := fun a b c => Tree.declarator a pack b c) fun _ _ _ => rfl

instance [x : Same detail a a'] [y : Same detail b b'] :
    Same detail (Tree.typeId a b) (.typeId a' b') := x.map₂ y fun _ _ => rfl

instance [x : Same detail a a'] :
    Same detail (Tree.specifiers attributes alignment modifiers a)
      (.specifiers attributes alignment modifiers a') :=
  x.map fun _ => rfl

instance [x : Same detail a a'] [y : Same detail b b'] [z : Same detail c c'] :
    Same detail (Tree.parameter a b c) (.parameter a' b' c') := x.map₃ y z fun _ _ _ => rfl

instance [x : Same detail a a'] : Same detail (Tree.assignInit a) (.assignInit a') :=
  x.map fun _ => rfl

instance [x : Same detail a a'] : Same detail (Tree.parenInit a) (.parenInit a') :=
  x.map fun _ => rfl

instance [x : Same detail a a'] : Same detail (Tree.braceInit a) (.braceInit a') :=
  x.map fun _ => rfl

instance [x : Same detail a a'] [y : Same detail b b'] [z : Same detail c c'] :
    Same detail (Tree.initDeclarator a b c) (.initDeclarator a' b' c') :=
  x.map₃ y z fun _ _ _ => rfl

instance [x : Same detail a a'] [y : Same detail b b'] :
    Same detail (Tree.memberInit a b pack) (.memberInit a' b' pack) :=
  x.map₂ y (f := fun a b => Tree.memberInit a b pack) fun _ _ => rfl

instance [x : Same detail a a'] : Same detail (Tree.defined a) (.defined a') :=
  x.map fun _ => rfl

instance [x : Same detail a a'] :
    Same detail (Tree.base access isVirtual a pack) (.base access isVirtual a' pack) :=
  x.map (f := (Tree.base access isVirtual · pack)) fun _ => rfl

instance [x : Same detail a a'] [y : Same detail b b'] :
    Same detail (Tree.enumerator ident a b) (.enumerator ident a' b') := x.map₂ y fun _ _ => rfl

instance [x : Same detail a a'] [y : Same detail b b'] :
    Same detail (Tree.bodilessEnum key a b) (.bodilessEnum key a' b') := x.map₂ y fun _ _ => rfl

instance [x : Same detail a a'] [y : Same detail b b'] [z : Same detail c c'] :
    Same detail (Tree.enumSpecifier key a b c) (.enumSpecifier key a' b' c') :=
  x.map₃ y z fun _ _ _ => rfl

instance [x : Same detail a a'] :
    Same detail (Tree.typeParameter key pack ident a) (.typeParameter key pack ident a') :=
  x.map fun _ => rfl

instance [x : Same detail a a'] : Same detail (Tree.valueParameter a) (.valueParameter a') :=
  x.map fun _ => rfl

instance [x : Same detail a a'] [y : Same detail b b'] :
    Same detail (Tree.templateParameter a key pack ident b)
      (.templateParameter a' key pack ident b') :=
  x.map₂ y (f := fun a b => Tree.templateParameter a key pack ident b) fun _ _ => rfl

instance [x : Same detail a a'] [y : Same detail b b'] :
    Same detail (Tree.declaration a b) (.declaration a' b') := x.map₂ y fun _ _ => rfl

instance [x : Same detail a a'] :
    Same detail (Tree.namespaceAlias ident a) (.namespaceAlias ident a') := x.map fun _ => rfl

instance [x : Same detail a a'] : Same detail (Tree.forwardClass key a) (.forwardClass key a') :=
  x.map fun _ => rfl

instance [x : Same detail a a'] : Same detail (Tree.classDeclaration a) (.classDeclaration a') :=
  x.map fun _ => rfl

instance [x : Same detail a a'] [y : Same detail b b'] :
    Same detail (Tree.variable a b) (.variable a' b') := x.map₂ y fun _ _ => rfl

instance [x : Same detail a a'] [y : Same detail b b'] :
    Same detail (Tree.typedef a b) (.typedef a' b') := x.map₂ y fun _ _ => rfl

instance [x : Same detail a a'] : Same detail (Tree.typeAlias ident a) (.typeAlias ident a') :=
  x.map fun _ => rfl

instance [x : Same detail a a'] [y : Same detail b b'] :
    Same detail (Tree.template a isInstantiation b) (.template a' isInstantiation b') :=
  x.map₂ y (f := fun a b => Tree.template a isInstantiation b) fun _ _ => rfl

instance [x : Same detail a a'] : Same detail (Tree.enumDeclaration a) (.enumDeclaration a') :=
  x.map fun _ => rfl

instance [x : Same detail a a'] : Same detail (Tree.usingDirective a) (.usingDirective a') :=
  x.map fun _ => rfl

instance [x : Same detail a a'] :
    Same detail (Tree.usingDeclaration isTypename a) (.usingDeclaration isTypename a') :=
  x.map fun _ => rfl

instance [x : Same detail a a'] : Same detail (Tree.linkageBlock abi a) (.linkageBlock abi a') :=
  x.map fun _ => rfl

instance [x : Same detail a a'] : Same detail (Tree.linkageSingle abi a) (.linkageSingle abi a') :=
  x.map fun _ => rfl

instance [x : Same detail a a'] [y : Same detail b b'] :
    Same detail (Tree.staticAssert a b) (.staticAssert a' b') := x.map₂ y fun _ _ => rfl

instance [x : Same detail a a'] [y : Same detail b b'] :
    Same detail (Tree.statement a b) (.statement a' b') := x.map₂ y fun _ _ => rfl

instance [x : Same detail a a'] : Same detail (Tree.testExpression a) (.testExpression a') :=
  x.map fun _ => rfl

instance [x : Same detail a a'] : Same detail (Tree.testDeclaration a) (.testDeclaration a') :=
  x.map fun _ => rfl

instance [x : Same detail a a'] [y : Same detail b b'] :
    Same detail (Tree.handler a b) (.handler a' b') := x.map₂ y fun _ _ => rfl

instance [x : Same detail a a'] :
    Same detail (Tree.expressionStatement a) (.expressionStatement a') := x.map fun _ => rfl

instance [x : Same detail a a'] : Same detail (Tree.compound a) (.compound a') :=
  x.map fun _ => rfl

instance [x : Same detail a a'] [y : Same detail b b'] [z : Same detail c c']
    [w : Same detail e e'] :
    Same detail (Tree.ifStatement isConstexpr a b c e) (.ifStatement isConstexpr a' b' c' e') :=
  x.map₄ y z w fun _ _ _ _ => rfl

instance [x : Same detail a a'] [y : Same detail b b'] [z : Same detail c c']
    [w : Same detail e e'] :
    Same detail (Tree.forStatement a b c e) (.forStatement a' b' c' e') :=
  x.map₄ y z w fun _ _ _ _ => rfl

instance [x : Same detail a a'] [y : Same detail b b'] [z : Same detail c c']
    [w : Same detail e e'] :
    Same detail (Tree.rangeFor a b c e) (.rangeFor a' b' c' e') := x.map₄ y z w fun _ _ _ _ => rfl

instance [x : Same detail a a'] [y : Same detail b b'] :
    Same detail (Tree.whileStatement a b) (.whileStatement a' b') := x.map₂ y fun _ _ => rfl

instance [x : Same detail a a'] [y : Same detail b b'] :
    Same detail (Tree.doStatement a b) (.doStatement a' b') := x.map₂ y fun _ _ => rfl

instance [x : Same detail a a'] [y : Same detail b b'] [z : Same detail c c'] :
    Same detail (Tree.switchStatement a b c) (.switchStatement a' b' c') :=
  x.map₃ y z fun _ _ _ => rfl

instance [x : Same detail a a'] : Same detail (Tree.caseLabel a) (.caseLabel a') :=
  x.map fun _ => rfl

instance [x : Same detail a a'] : Same detail (Tree.returnStatement a) (.returnStatement a') :=
  x.map fun _ => rfl

instance [x : Same detail a a'] :
    Same detail (Tree.declarationStatement a) (.declarationStatement a') := x.map fun _ => rfl

instance [x : Same detail a a'] [y : Same detail b b'] :
    Same detail (Tree.tryStatement a b) (.tryStatement a' b') := x.map₂ y fun _ _ => rfl

instance [x : Same detail a a'] : Same detail (Tree.typeOperand a) (.typeOperand a') :=
  x.map fun _ => rfl

instance [x : Same detail a a'] : Same detail (Tree.valueOperand a) (.valueOperand a') :=
  x.map fun _ => rfl

instance [x : Same detail a a'] :
    Same detail (Tree.captureCopy ident a pack) (.captureCopy ident a' pack) :=
  x.map (f := (Tree.captureCopy ident · pack)) fun _ => rfl

instance [x : Same detail a a'] :
    Same detail (Tree.captureReference ident a pack) (.captureReference ident a' pack) :=
  x.map (f := (Tree.captureReference ident · pack)) fun _ => rfl

instance [x : Same detail a a'] : Same detail (Tree.nameExpression a) (.nameExpression a') :=
  x.map fun _ => rfl

instance [x : Same detail a a'] [y : Same detail b b'] :
    Same detail (Tree.binary op a b) (.binary op a' b') := x.map₂ y fun _ _ => rfl

instance [x : Same detail a a'] [y : Same detail b b'] :
    Same detail (Tree.assignment op a b) (.assignment op a' b') := x.map₂ y fun _ _ => rfl

instance [x : Same detail a a'] : Same detail (Tree.unary op a) (.unary op a') :=
  x.map fun _ => rfl

instance [x : Same detail a a'] [y : Same detail b b'] :
    Same detail (Tree.call a b) (.call a' b') := x.map₂ y fun _ _ => rfl

instance [x : Same detail a a'] [y : Same detail b b'] :
    Same detail (Tree.index a b) (.index a' b') := x.map₂ y fun _ _ => rfl

instance [x : Same detail a a'] [y : Same detail b b'] :
    Same detail (Tree.member a arrow b) (.member a' arrow b') :=
  x.map₂ y (f := fun a b => Tree.member a arrow b) fun _ _ => rfl

instance [x : Same detail a a'] [y : Same detail b b'] :
    Same detail (Tree.cast kind a b) (.cast kind a' b') := x.map₂ y fun _ _ => rfl

instance [x : Same detail a a'] [y : Same detail b b'] [z : Same detail c c'] :
    Same detail (Tree.conditional a b c) (.conditional a' b' c') := x.map₃ y z fun _ _ _ => rfl

instance [x : Same detail a a'] [y : Same detail b b'] :
    Same detail (Tree.braced a b) (.braced a' b') := x.map₂ y fun _ _ => rfl

instance [x : Same detail a a'] : Same detail (Tree.sizeof a) (.sizeof a') :=
  x.map fun _ => rfl

instance [x : Same detail a a'] : Same detail (Tree.alignof a) (.alignof a') :=
  x.map fun _ => rfl

instance [x : Same detail a a'] [y : Same detail b b'] [z : Same detail c c']
    [w : Same detail e e'] :
    Same detail (Tree.newExpression isGlobal a b c e) (.newExpression isGlobal a' b' c' e') :=
  x.map₄ y z w fun _ _ _ _ => rfl

instance [x : Same detail a a'] :
    Same detail (Tree.deleteExpression isGlobal isArray a)
      (.deleteExpression isGlobal isArray a') :=
  x.map fun _ => rfl

instance [x : Same detail a a'] : Same detail (Tree.throwExpression a) (.throwExpression a') :=
  x.map fun _ => rfl

instance [x : Same detail a a'] : Same detail (Tree.packExpansion a) (.packExpansion a') :=
  x.map fun _ => rfl

instance [x : Same detail a a'] [y : Same detail b b'] :
    Same detail (Tree.fold op a b) (.fold op a' b') := x.map₂ y fun _ _ => rfl

instance [x : Same detail a a'] :
    Same detail (Tree.noexceptExpression a) (.noexceptExpression a') := x.map fun _ => rfl

instance [x : Same detail a a'] : Same detail (Tree.typeid a) (.typeid a') :=
  x.map fun _ => rfl

instance function_same [x : Same detail a a'] [y : Same detail b b'] [z : Same detail c c']
    [w : Same detail e e'] [v : Same detail f f'] [u : Same detail h h'] :
    Same detail (Tree.function a b c e isOverride isFinal f h)
      (.function a' b' c' e' isOverride isFinal f' h') :=
  ⟨by
    show Tree.function (view detail a) (view detail b) (view detail c) (view detail e) isOverride
      isFinal (view detail f) (view detail h) = _
    rw [x.eq, y.eq, z.eq, w.eq, v.eq, u.eq]
    rfl⟩

instance lambda_same [x : Same detail a a'] [y : Same detail b b'] [z : Same detail c c']
    [w : Same detail e e'] [v : Same detail f f'] :
    Same detail (Tree.lambda a b isMutable isConstexpr c e f)
      (.lambda a' b' isMutable isConstexpr c' e' f') :=
  ⟨by
    show Tree.lambda (view detail a) (view detail b) isMutable isConstexpr (view detail c)
      (view detail e) (view detail f) = _
    rw [x.eq, y.eq, z.eq, w.eq, v.eq]
    rfl⟩

/-- The same counts of two sequences of comments before closing braces. -/
def Detail.SameClosing (detail : Detail) (first second : List String) : Prop :=
  detail.erasure.closing first = detail.erasure.closing second

theorem Same.unit (members : Same detail a a') (closing : detail.SameClosing c c') :
    Same detail (Tree.unit a c) (.unit a' c') :=
  ⟨by
    show Tree.unit (view detail a) (detail.erasure.closing c) = _
    rw [members.eq, closing]
    rfl⟩

theorem Same.block (statements : Same detail a a') (closing : detail.SameClosing c c') :
    Same detail (Tree.block a c) (.block a' c') :=
  ⟨by
    show Tree.block (view detail a) (detail.erasure.closing c) = _
    rw [statements.eq, closing]
    rfl⟩

theorem Same.namespaceBlock (members : Same detail a a') (closing : detail.SameClosing c c') :
    Same detail (Tree.namespaceBlock path isInline a c) (.namespaceBlock path isInline a' c') :=
  ⟨by
    show Tree.namespaceBlock path isInline (view detail a) (detail.erasure.closing c) = _
    rw [members.eq, closing]
    rfl⟩

theorem Same.classSpecifier (title : Same detail a a') (bases : Same detail b b')
    (members : Same detail e e') (closing : detail.SameClosing c c') :
    Same detail (Tree.classSpecifier key attributes alignment a isFinal b e c)
      (.classSpecifier key attributes alignment a' isFinal b' e' c') :=
  ⟨by
    show Tree.classSpecifier key attributes alignment (view detail a) isFinal (view detail b)
      (view detail e) (detail.erasure.closing c) = _
    rw [title.eq, bases.eq, members.eq, closing]
    rfl⟩

end CppSyntax
