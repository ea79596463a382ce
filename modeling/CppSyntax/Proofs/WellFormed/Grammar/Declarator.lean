import CppSyntax.Proofs.Parsing.Names
import CppSyntax.Proofs.WellFormed.Grammar.Specifier
import CppSyntax.Grammar.Template

/-!
Declarators and the parameters of functions and templates. Where a nested declarator is opened, the
first of its pointer operators is in sight, and reading cannot miss it.
-/

set_option synthInstance.maxSize 4096

namespace CppSyntax

open CppSyntax.Parser

namespace State

variable {state : State}

theorem ahead_next {steps : Nat} (inside : state.atEnd = false) (more : state.following ≠ []) :
    state.next.ahead steps = state.ahead (steps + 1) := by
  cases following : state.following with
  | nil => exact absurd following more
  | cons token rest =>
    rw [next_of_following inside following]
    simp [ahead, following, List.getLast?_cons]

/-- Behind the parenthesis of a nested declarator stands a pointer operator. -/
theorem atPointerOperator_next (nested : state.atNestedDeclarator = true) :
    state.next.atPointerOperator = true := by
  simp only [atNestedDeclarator, Bool.and_eq_true] at nested
  obtain ⟨opened, ahead⟩ := nested
  have inside := inside_of_isAt opened
  cases following : state.following with
  | nil =>
    have same : state.ahead 1 = .punctuator .leftParen := by
      simpa [State.ahead, following, isAt, kind] using opened
    rw [same] at ahead
    contradiction
  | cons token rest =>
    have more : state.following ≠ [] := by simp [following]
    have kind : state.next.kind = state.ahead 1 := by
      rw [← ahead_next inside more]
      rfl
    rw [atPointerOperator, kind, isAhead, isAhead, ahead_next inside more, ahead_next inside more]
    cases found : state.ahead 1 <;> simp_all [isAhead]

/-- A pointer operator that is no mark is that of a member pointer. -/
theorem identifier_of_atPointerOperator (ahead : state.atPointerOperator = true)
    (noStar : state.isAt .star = false) (noAmpersand : state.isAt .ampersand = false)
    (noAndAnd : state.isAt .andAnd = false) :
    ∃ ident, state.kind = .identifier ident ∧ state.isAhead 1 .scope = true ∧
      state.isAhead 2 .star = true := by
  unfold atPointerOperator at ahead
  split at ahead
  · simp_all [isAt]
  · exact ⟨_, ‹_›, Bool.and_eq_true_iff.mp ahead⟩
  · cases ahead

/-- What the glyphs are where a member pointer is in sight. -/
theorem glyphs_of_memberPointer {ident : String} (isName : state.kind = .identifier ident)
    (scope : state.isAhead 1 .scope = true) (star : state.isAhead 2 .star = true) :
    ∃ joint rest, ∃ second third : Glyph, second.kind = .punctuator .scope ∧
      third.kind = .punctuator .star ∧
      state.glyphs = ⟨.identifier ident, joint⟩ :: second :: third :: rest := by
  simp only [isAhead, beq_iff_eq] at scope star
  unfold State.ahead at scope star
  cases following : state.following with
  | nil =>
    simp only [following, List.take_nil, List.getLast?_nil, Option.getD_none] at scope
    exact absurd (isName.symm.trans scope) nofun
  | cons second rest =>
    cases rest with
    | nil => simp_all
    | cons third rest =>
      simp only [following] at scope star
      refine ⟨state.current.joint, rest.map Token.glyph, second.glyph, third.glyph, scope, star, ?_⟩
      rw [glyphs, tokens, following, ← isName]
      rfl

end State

namespace Grammar

variable {g : Grammar Parser} [sound : g.Sound]

instance : Yields g.exceptionSpec := by
  unfold Grammar.exceptionSpec
  infer_instance

instance : Yields g.defaultValue := by
  unfold Grammar.defaultValue
  infer_instance

instance parameter_yields : Yields g.parameter := by
  unfold Grammar.parameter
  refine .andThen inferInstance fun specs => ?_
  dsimp only
  split
  · infer_instance
  · rename_i typed
    have fits (shape : Declarator) (fallback : Part .expression) :
        Holds (Tree.parameter specs.value.tree shape fallback).Fits :=
      ⟨by simpa [specifiedType?_tree, Option.isSome_iff_ne_none] using typed⟩
    infer_instance

instance : Yields g.parameterItems := by
  unfold Grammar.parameterItems
  infer_instance

instance : Yields g.parameterList := by
  unfold Grammar.parameterList
  infer_instance

instance {found : FunctionQualifiers} [fine : Fine found] : Fine found.exception := ⟨fine.sound⟩

instance {cv : Qualifiers} {reference : Option ReferenceQualifier}
    {exception : Option (Tree .exceptionSpec)} [fine : Fine exception] :
    Fine (FunctionQualifiers.mk cv reference exception) :=
  ⟨fine.sound⟩

instance : Yields g.functionQualifiers := by
  unfold Grammar.functionQualifiers
  infer_instance

instance : Yields g.trailingResult := by
  unfold Grammar.trailingResult
  infer_instance

instance : Yields g.signature := by
  unfold Grammar.signature
  infer_instance

instance : Yields g.arraySize := by
  unfold Grammar.arraySize
  infer_instance

instance (mode : DeclaratorMode) : Yields (g.declaratorSuffixes mode) := by
  unfold Grammar.declaratorSuffixes
  infer_instance

omit sound in
/-- The class of a member pointer whose star is in sight is read without fail. -/
theorem memberPointerScope_lasts (derived : g.IsDerived) {ident : String} (context : Context)
    (state : State) (isName : state.kind = .identifier ident)
    (scope : state.isAhead 1 .scope = true) (star : state.isAhead 2 .star = true) :
    (g.memberPointerScope context state).Gives True fun _ _ => True := by
  obtain ⟨joint, rest, second, third, isScope, isStar, known⟩ :=
    State.glyphs_of_memberPointer isName scope star
  have name : g.name.Reads context True (⟨.identifier ident, joint⟩ :: second :: third :: rest)
      (· = .simpleName ident) (second :: third :: rest) := by
    refine name_reads_alone (by simp [isScope]) (fun state known => ?_) derived
    rw [State.ahead_one_of_glyphs known, isStar]
    exact Bool.and_false _
  refine name.lasts (fun target place behind => ?_) known
  refine (Reads.expect (List.cons_ne_nil _ _) isScope).lasts (fun _ place behind => ?_) behind
  have isAt : place.isAt .star = true := by simp [State.isAt_of_glyphs behind, isStar]
  show Reply.Gives True _ (Parser.bind (expect .star _) _ context place)
  rw [Parser.bind, expect_apply isAt]
  trivial

/-- A pointer operator is in sight unless some have been read. -/
def PointersAhead (found : List (Tree .pointerOperator)) (state : State) : Prop :=
  found = [] → state.atPointerOperator = true

omit sound in
theorem PointersAhead.more (found : List (Tree .pointerOperator)) (next : Tree .pointerOperator)
    (state : State) : PointersAhead (found ++ [next]) state := by
  intro empty
  simp at empty

theorem pointerOperators_found :
    g.pointerOperators.Ensures (·.atPointerOperator = true) fun found _ => found ≠ [] := by
  refine .mono (.iterate PointersAhead (fun found => ?_) g.fuel []) (fun _ isAt _ => isAt) fun _ _ => id
  refine .whetherAt (.bind .anything fun cv => .pure fun _ _ => .more _ _ _) ?_
  refine .whetherAt (.pure fun _ _ => .more _ _ _) (.whetherAt (.pure fun _ _ => .more _ _ _) ?_)
  refine .here fun place ⟨⟨⟨ahead, noStar⟩, noAmpersand⟩, noAndAnd⟩ => ?_
  cases found with
  | cons first rest =>
    refine .branch (fun _ => .bind .anything fun scope => ?_) fun _ => .pure fun _ _ => by simp
    cases scope with
    | none => exact .pure fun _ _ => by simp
    | some scope => exact .bind .anything fun cv => .pure fun _ _ => .more _ _ _
  | nil =>
    obtain ⟨ident, isName, scope, star⟩ :=
      place.identifier_of_atPointerOperator (ahead rfl) noStar noAmpersand noAndAnd
    have found : (attempt g.memberPointerScope : Parser _).Ensures (· = place)
        fun found _ => found.isSome := by
      refine .attempt fun context state here => ?_
      subst here
      exact memberPointerScope_lasts sound.derived context state isName scope star
    have named : place.isAtIdentifier = true := by rw [State.isAtIdentifier, isName]
    rw [named]
    refine .bind found fun scope => .assume fun isSome => ?_
    cases scope with
    | none => cases isSome
    | some scope => exact .bind .anything fun cv => .pure fun _ _ => .more _ _ _

omit sound in
theorem separated_nonempty (item : Parser α) :
    (g.separated item).Ensures (fun _ => True) fun items _ => items ≠ [] := by
  have step (items : List α) : Parser.Ensures (do
      let items := items ++ [← item]
      if ← accept .comma then return .inl items else return .inr items : Parser (List α ⊕ List α))
      (fun _ => True) (Progress (fun _ _ => True) fun items _ => items ≠ []) := by
    refine .bind .anything fun value => .bind .anything fun more => ?_
    exact .branch (fun _ => .pure fun _ _ => trivial) fun _ => .pure fun _ _ => by simp
  exact .iterate _ step g.fuel []

omit sound in
theorem bindingNames_nonempty :
    g.bindingNames.Ensures (fun _ => True) fun names _ => names ≠ [] := by
  unfold Grammar.bindingNames
  refine .bind .anything fun _ => .bind (separated_nonempty _) fun names => .assume fun nonempty => ?_
  exact .bind .anything fun _ => .pure fun _ _ => nonempty

theorem declaratorCore_keeps (mode : DeclaratorMode) :
    (g.declaratorCore mode).Ensures (fun _ => True) fun core _ => Fine core ∧
      (mode = .named → core.declaredName?.isSome ∨ core.boundNames ≠ []) := by
  unfold Grammar.declaratorCore
  refine .here fun place _ => .branch (fun nested => ?_) fun _ => .branch (fun _ => ?_) fun _ => ?_
  · have moved : (Parser.advance : Parser Unit).Ensures (· = place)
        fun _ state => state.atPointerOperator = true := by
      refine .advance fun state here => ?_
      subst here
      exact State.atPointerOperator_next nested
    have inner : (g.declarator mode).Ensures (·.atPointerOperator = true) fun inner _ =>
        Fine inner ∧ (mode = .named → inner.IsNamed) ∧ inner.pointerOperators ≠ [] :=
      sound.from_places fun _ _ ahead ⟨fine, named, pointers⟩ => ⟨fine, named, pointers ahead⟩
    refine .bind moved fun _ => .bind inner fun inner => .assume fun ⟨fine, named, pointers⟩ => ?_
    have fits : Holds (Tree.nestedDeclarator inner).Fits := ⟨pointers⟩
    exact .bind .anything fun _ => .pure fun _ _ => ⟨inferInstance, named⟩
  · exact .bind (Yields.from_places _) fun target => .pure fun _ _ => ⟨inferInstance, fun _ => .inl rfl⟩
  · refine .branch (fun _ => .branch (fun _ => ?_) fun _ => .fail _) fun other => ?_
    · exact .bind bindingNames_nonempty.anywhere fun names => .pure fun _ nonempty =>
        ⟨inferInstance, fun _ => .inr nonempty⟩
    · exact .pure fun _ _ => ⟨inferInstance, fun named => by simp [named] at other⟩

/-- A declarator keeps what its symbol promises. -/
theorem declaratorRule_keeps (mode : DeclaratorMode) (start : State) :
    (g.declaratorRule mode).Ensures (· = start) fun shape _ =>
      (Symbol.declarator mode).Promises start shape := by
  have pointers : g.pointerOperators.Ensures (· = start) fun found _ =>
      Fine found ∧ (start.atPointerOperator = true → found ≠ []) := by
    refine .and (Yields.from_places _) fun context state here found reached answered ahead => ?_
    subst here
    exact pointerOperators_found context state ahead found reached answered
  refine .nested (.bind pointers fun found => .assume fun ⟨fine, pointers⟩ => ?_)
  refine .branch (fun isLast => .pure fun _ _ => ⟨inferInstance, fun named => ?_, ?_⟩) fun _ => ?_
  · subst named
    cases isLast
  · simpa [Tree.pointerOperators] using pointers
  · refine .bind .anything fun pack => ?_
    refine .bind (declaratorCore_keeps mode) fun core => .assume fun ⟨fineCore, named⟩ => ?_
    refine .bind (Yields.from_places _) fun suffixes => .pure fun _ fineSuffixes => ⟨?_, named, ?_⟩
    · infer_instance
    · simpa [Tree.pointerOperators] using pointers

instance : Yields g.templateTemplateParameter := by
  unfold Grammar.templateTemplateParameter
  infer_instance

instance : Yields g.typeParameter := by
  unfold Grammar.typeParameter
  infer_instance

instance : Yields g.templateParameter := by
  unfold Grammar.templateParameter
  infer_instance

instance : Yields g.templateParametersRule := by
  unfold Grammar.templateParametersRule
  infer_instance

end Grammar

end CppSyntax
