import CppSyntax.Proofs.Parsing.Outcome
import CppSyntax.Render.Unit

/-!
Simple names, and the declarators that declare them.
-/

namespace CppSyntax

open CppSyntax.Parser Grammar

/-- A name of one identifier. -/
def Tree.simpleName (ident : String) : Name :=
  .qualifiedName false (.cons (.plainSegment ident false) .nil)

theorem Tree.drawing_simpleName (ident : String) :
    (Tree.simpleName ident).drawing = Doc.text ident := by
  funext layout
  show "" ++ "::".intercalate ["" ++ ident] = ident
  simp

/-- A declarator that gives a name to what the specifiers say. -/
def Tree.namedDeclarator (ident : String) : Declarator :=
  .declarator .nil false (.declaredName (.simpleName ident)) .nil

section

variable {ident : String} {joint : Bool} {next : Glyph} {rest : List Glyph} {context : Context}
  {sure : Prop} {g : Grammar Parser}

theorem segment_reads {inExpression : Bool}
    (refused : next.kind = .punctuator .less →
      (g.fittingTemplateArguments inExpression).Refuses context (next :: rest)) :
    (g.segment inExpression).Reads context sure (⟨.identifier ident, joint⟩ :: next :: rest)
      (· = (.plainSegment ident false, true)) (next :: rest) := by
  refine (Reads.missingWord (by simp)).andThen ?_
  refine (Reads.missing (by simp)).andThen ?_
  refine (Reads.missingWord (by simp)).andThen ?_
  have plain : (g.plainSegment inExpression false).Reads context sure
      (⟨.identifier ident, joint⟩ :: next :: rest) (· = .plainSegment ident false)
      (next :: rest) := by
    refine (Reads.expectIdentifier (List.cons_ne_nil _ _) rfl).andThen (.byPlace fun state known => ?_)
    rw [State.isAt_of_glyphs known]
    cases less : next.kind == .punctuator .less with
    | false => exact .pure rfl
    | true => exact .attemptNone (refused (by simpa using less)) (.pure rfl)
  exact plain.andThen (.pure rfl)

/-- An identifier is read as a name of its own where the name does not go on and the template
arguments that might follow are refused. -/
theorem name_reads_refusing {inExpression : Bool}
    (refused : ∀ inner : Grammar Parser, inner.IsDerived → next.kind = .punctuator .less →
      (inner.fittingTemplateArguments inExpression).Refuses context (next :: rest))
    (ends : ∀ state : State, state.glyphs = next :: rest →
      (state.isAt .scope && continuesName (state.ahead 1)) = false) (derived : g.IsDerived) :
    (g.parse (.name inExpression)).Reads context sure (⟨.identifier ident, joint⟩ :: next :: rest)
      (· = .simpleName ident) (next :: rest) := by
  refine derived.symbol (.name inExpression) fun inner innerDerived => ?_
  refine (Reads.missing (by simp)).andThen ?_
  have step : (inner.nameStep inExpression []).Reads context sure
      (⟨.identifier ident, joint⟩ :: next :: rest) (· = .inr [.plainSegment ident false])
      (next :: rest) := by
    refine (segment_reads (refused inner innerDerived)).andThen (.byPlace fun state known => ?_)
    simp only [Bool.true_and, ends state known]
    exact .pure rfl
  have loop : (inner.loop (inner.nameStep inExpression) []).Reads context sure
      (⟨.identifier ident, joint⟩ :: next :: rest) (· = [.plainSegment ident false])
      (next :: rest) := .stopWith step inner.fuel
  exact loop.andThen (.pure rfl)

/-- An identifier is read as a name of its own where the name does not go on. -/
theorem name_reads_alone {inExpression : Bool} (noLess : next.kind ≠ .punctuator .less)
    (ends : ∀ state : State, state.glyphs = next :: rest →
      (state.isAt .scope && continuesName (state.ahead 1)) = false) (derived : g.IsDerived) :
    (g.parse (.name inExpression)).Reads context sure (⟨.identifier ident, joint⟩ :: next :: rest)
      (· = .simpleName ident) (next :: rest) :=
  name_reads_refusing (fun _ _ less => absurd less noLess) ends derived

/-- An identifier is read as a name of its own unless the next token goes on with the name. -/
theorem name_reads {inExpression : Bool} (noScope : next.kind ≠ .punctuator .scope)
    (noLess : next.kind ≠ .punctuator .less) (derived : g.IsDerived) :
    (g.parse (.name inExpression)).Reads context sure (⟨.identifier ident, joint⟩ :: next :: rest)
      (· = .simpleName ident) (next :: rest) := by
  refine name_reads_alone noLess (fun state known => ?_) derived
  have other : state.isAt .scope = false := by
    simpa [State.isAt_of_glyphs known] using noScope
  rw [other, Bool.false_and]

/-- Nothing but a name stands before the token. -/
theorem pointerOperators_reads_nothing (noScope : next.kind ≠ .punctuator .scope)
    (noLess : next.kind ≠ .punctuator .less) (derived : g.IsDerived) :
    g.pointerOperators.Reads context sure (⟨.identifier ident, joint⟩ :: next :: rest) (· = [])
      (⟨.identifier ident, joint⟩ :: next :: rest) := by
  refine .stopWith ?_ g.fuel
  refine (Reads.missing (by simp)).andThen ?_
  refine (Reads.missing (by simp)).andThen ?_
  refine (Reads.missing (by simp)).andThen (.byPlace fun state known => ?_)
  have isName : state.isAtIdentifier = true := by
    rw [State.isAtIdentifier, State.kind_of_glyphs known]
  rw [isName]
  have noMember : g.memberPointerScope.Refuses context
      (⟨.identifier ident, joint⟩ :: next :: rest) := by
    refine Refuses.behind (name_reads noScope noLess derived) fun _ _ => ?_
    exact Refuses.bind ((Reads.missing noScope).andThen (Refuses.fail _))
  exact .attemptNone noMember (.pure rfl)

theorem declaratorCore_reads (noScope : next.kind ≠ .punctuator .scope)
    (noLess : next.kind ≠ .punctuator .less) (derived : g.IsDerived) :
    (g.declaratorCore .named).Reads context sure (⟨.identifier ident, joint⟩ :: next :: rest)
      (· = .declaredName (.simpleName ident)) (next :: rest) := by
  refine .byPlace fun state known => ?_
  have noNesting : state.atNestedDeclarator = false := by
    rw [State.atNestedDeclarator, State.isAt_of_glyphs known]
    rfl
  have isName : state.atDeclaredName = true := by
    rw [State.atDeclaredName, State.isAtIdentifier, State.kind_of_glyphs known]
    rfl
  rw [noNesting, isName]
  exact (name_reads noScope noLess derived).andThen (.pure rfl)

/-- A name with suffixes behind it. -/
theorem declarator_reads {suffixes : List (Tree .declaratorSuffix)} {behind : List Glyph}
    (noScope : next.kind ≠ .punctuator .scope) (noLess : next.kind ≠ .punctuator .less)
    (derived : g.IsDerived) (allowed : sure → context.depth < nestingLimit)
    (later : ∀ inner : Grammar Parser, inner.IsDerived → (inner.declaratorSuffixes .named).Reads
      { context with depth := context.depth + 1 } sure (next :: rest) (· = suffixes) behind) :
    (g.declarator .named).Reads context sure (⟨.identifier ident, joint⟩ :: next :: rest)
      (· = .declarator .nil false (.declaredName (.simpleName ident)) (.ofList suffixes)) behind := by
  refine derived.symbol (.declarator .named) fun inner innerDerived => .nested allowed ?_
  refine (pointerOperators_reads_nothing noScope noLess innerDerived).andThen ?_
  refine (Reads.missing (by simp)).andThen ?_
  refine (declaratorCore_reads noScope noLess innerDerived).andThen ?_
  exact (later inner innerDerived).andThen (.pure rfl)

theorem declaratorSuffixes_reads_nothing {mode : DeclaratorMode}
    (noBracket : next.kind ≠ .punctuator .leftBracket) (noParen : next.kind ≠ .punctuator .leftParen) :
    (g.declaratorSuffixes mode).Reads context sure (next :: rest) (· = []) (next :: rest) := by
  refine .stopWith ?_ g.fuel
  refine .byPlace fun state known => ?_
  have bracket : state.isAt .leftBracket = false := by
    simpa [State.isAt_of_glyphs known] using noBracket
  have paren : state.isAt .leftParen = false := by
    simpa [State.isAt_of_glyphs known] using noParen
  rw [bracket, paren]
  exact .pure rfl

end

end CppSyntax
