import CppSyntax.Proofs.Guess.Grammar.Name

/-!
Specifiers and declarators. Before ordinary tokens specifiers are names, and outside of brackets a
declarator adds little more than pointer operators to them.
-/

namespace CppSyntax.Grammar

open CppSyntax.Parser

variable {g : Grammar Parser} {context : Context} {region : Region}

/-- No specifier starts with a word that is an operand. -/
private theorem keywordSpecifier_leaf (draft : SpecifierDraft) {word : Keyword}
    (leaf : (TokenKind.keyword word).isLeaf = true) :
    g.keywordSpecifier draft word = (pure (.inr draft) : Parser _) := by
  funext context state
  unfold Grammar.keywordSpecifier
  cases word <;> first | cases leaf; done | cases draft.hasType <;> rfl

section

variable (tidy : g.Tidy)

include tidy

theorem namedSpecifier_tidy (scope : Scope) (draft : SpecifierDraft) :
    (g.namedSpecifier scope draft).Keeps context .type := by
  refine fun state => .branch (fun _ => .pure) fun _ => ?_
  have ahead : (g.declaratorNameAhead scope).Keeps context .type :=
    fun _ => .byContext (.lookahead fun _ => .pure)
  refine .bind ahead fun isDeclarator _ => .branch (fun _ => .pure) fun _ => ?_
  refine .bind (tidy.name false) fun target place => .here ?_
  exact .branch (fun _ => .pure) fun _ => .pure

theorem specifierStep_tidy (scope : Scope) (draft : SpecifierDraft) :
    (g.specifierStep scope draft).Keeps context .type := by
  refine fun state => .here (.ordinarily fun ordinary => ?_)
  rw [State.atAttribute_ordinary ordinary]
  cases known : state.kind with
  | keyword word =>
    have leaf : (TokenKind.keyword word).isLeaf = true := by
      rcases State.kind_ordinary ordinary with stops | is
      · rw [known] at stops
        cases stops
      · rwa [known] at is
    show (g.keywordSpecifier draft word).Closes context .type 0 state
    rw [keywordSpecifier_leaf draft leaf]
    exact .pure
  | identifier => exact namedSpecifier_tidy tidy scope draft state
  | punctuator mark =>
    cases mark <;> first | exact .pure | exact namedSpecifier_tidy tidy scope draft state
  | _ => exact .pure

theorem specifiersRule_tidy (scope : Scope) : (g.specifiersRule scope).Keeps context .type := by
  refine fun state => .bind (.iterate (specifierStep_tidy tidy scope) _ _) fun draft _ => ?_
  cases draft.type? with
  | some type => exact .pure
  | none => exact .branch (fun _ => .failFirst) fun _ => .pure

end

private theorem suffix_steps {mark : Punctuator}
    (allowed : Region.type.allows (.punctuator mark) = true) :
    Region.type.Steps (.punctuator mark) 0 0 := by
  have plain : (TokenKind.punctuator mark).opensBracket = false ∧
      (TokenKind.punctuator mark).closesBracket = false ∧ (TokenKind.punctuator mark).isStop = false := by
    cases mark <;> first | cases allowed; done | exact ⟨rfl, rfl, rfl⟩
  exact .token plain.1 plain.2.1 plain.2.2 (.inr allowed)

private theorem any_steps {mark : Punctuator} {depth : Nat}
    (plain : ((TokenKind.punctuator mark).opensBracket || (TokenKind.punctuator mark).closesBracket ||
      (TokenKind.punctuator mark).isStop) = false) :
    Region.anything.Steps (.punctuator mark) depth depth := by
  rw [Bool.or_eq_false_iff, Bool.or_eq_false_iff] at plain
  exact .token plain.1.1 plain.1.2 plain.2 (.inr rfl)

theorem atExceptionSpec_ordinary {state : State} (ordinary : Ordinary state.glyphs) :
    state.atExceptionSpec = false := by
  rw [State.atExceptionSpec, State.isAtWord_ordinary ordinary (by decide),
    State.isAtWord_ordinary ordinary (by decide)]
  rfl

section

variable (tidy : g.Tidy)

include tidy

theorem defaultValue_tidy : g.defaultValue.Keeps context .anything :=
  fun _ => .accept (any_steps rfl) (fun _ => .bind tidy.clause fun _ _ => .pure) .pure

theorem parameter_tidy : g.parameter.Keeps context .anything := by
  refine fun state => .bind (tidy.specifiers _).ofType fun specs _ => ?_
  refine .branch (fun _ => .failFirst) fun _ => ?_
  refine .bind (tidy.declarator _).ofType fun shape _ => ?_
  exact .bind (defaultValue_tidy tidy) fun _ _ => .pure

theorem parameterItems_tidy : g.parameterItems.Keeps context .anything := by
  refine .iterate (fun items state => .acceptNever rfl rfl ?_) _ _
  refine .bind (parameter_tidy tidy) fun item _ => .acceptNever rfl rfl ?_
  exact .accept (any_steps rfl) (fun _ => .pure) .pure

theorem parameterList_tidy : g.parameterList.Keeps context .type := by
  have items : (angleCloses false (do
      if (← here).isAt .rightParen then return ([], false) else g.parameterItems)).Keeps context
        .anything :=
    .angleCloses fun state => .here (.branch (fun _ => .pure) fun _ => parameterItems_tidy tidy state)
  refine fun state => .expect (.opening rfl) fun _ => .bindInside items fun found _ => ?_
  exact .expect (.closing rfl) fun _ => .pure

omit tidy in
theorem functionQualifiers_tidy : g.functionQualifiers.Keeps context .type := by
  refine .iterate (fun found state => ?_) _ _
  refine .acceptWordNever (by decide) (.acceptWordNever (by decide) ?_)
  refine .accept (suffix_steps rfl) (fun _ => .pure) (.accept (suffix_steps rfl) (fun _ => .pure) ?_)
  refine .here (.ordinarily fun ordinary => ?_)
  rw [atExceptionSpec_ordinary ordinary]
  exact .pure

theorem trailingResult_tidy : g.trailingResult.Keeps context .type :=
  fun _ => .accept (suffix_steps rfl) (fun _ => .bind (typeId_tidy tidy) fun _ _ => .pure) .pure

theorem signature_tidy : g.signature.Keeps context .type :=
  fun _ => .bind (parameterList_tidy tidy) fun _ _ => .bind functionQualifiers_tidy fun _ _ =>
    .bind (trailingResult_tidy tidy) fun _ _ => .pure

theorem arraySize_tidy : g.arraySize.Keeps context .anything :=
  fun _ => .here (.branch (fun _ => .pure) fun _ => .bind (bracketed_tidy tidy) fun _ _ => .pure)

omit tidy in
theorem parameterListAhead_tidy : g.parameterListAhead.Keeps context region := by
  refine fun state => .here ?_
  split <;> first | exact .pure | exact .lookahead fun _ => .pure

theorem declaratorSuffixes_tidy (mode : DeclaratorMode) :
    (g.declaratorSuffixes mode).Keeps context .type := by
  have suffix (found : List (Tree .declaratorSuffix)) : (do
      return .inl (found ++ [.functionSuffix (← g.signature)]) : Parser
        (List (Tree .declaratorSuffix) ⊕ List (Tree .declaratorSuffix))).Keeps context .type :=
    fun _ => .bind (signature_tidy tidy) fun _ _ => .pure
  refine .iterate (fun found state => .here (.branch (fun opens => ?_) fun _ => ?_)) _ _
  · have bracket : state.kind = .punctuator .leftBracket := by
      simp only [Bool.and_eq_true] at opens
      simpa [State.isAt] using opens.1
    refine .advance bracket (.opening rfl) fun _ => ?_
    refine .bindInside (arraySize_tidy tidy) fun size _ => ?_
    exact .expect (.closing rfl) fun _ => .pure
  · refine .branch (fun _ => ?_) fun _ => .pure
    refine .bind parameterListAhead_tidy fun ahead place => ?_
    exact .branch (fun _ => suffix found place) fun _ => .pure

omit tidy in
theorem bindingNames_tidy : g.bindingNames.Keeps context .type := by
  have names : (g.separated (expectIdentifier "in structured binding")).Keeps context .anything := by
    refine .iterate (fun items state => .bind .expectIdentifier fun item _ => ?_) _ _
    exact .accept (any_steps rfl) (fun _ => .pure) .pure
  refine fun state => .expect (.opening rfl) fun _ => .bindInside names fun found _ => ?_
  exact .expect (.closing rfl) fun _ => .pure

theorem declaratorCore_tidy (mode : DeclaratorMode) :
    (g.declaratorCore mode).Keeps context .type := by
  refine fun state => .here (.branch (fun nested => ?_) fun _ => ?_)
  · have paren : state.kind = .punctuator .leftParen := by
      simp only [State.atNestedDeclarator, Bool.and_eq_true] at nested
      simpa [State.isAt] using nested.1
    refine .advance paren (.opening rfl) fun _ => ?_
    refine .bindInside (tidy.declarator _) fun inner _ => ?_
    exact .expect (.closing rfl) fun _ => .pure
  · refine .branch (fun _ => .bind (tidy.name false) fun _ _ => .pure) fun _ => ?_
    refine .branch (fun _ => .branch (fun _ => ?_) fun _ => .failFirst) fun _ => .pure
    exact .bind bindingNames_tidy fun _ _ => .pure

theorem declaratorRule_tidy (mode : DeclaratorMode) :
    (g.declaratorRule mode).Keeps context .type := by
  refine .nested fun state => .bind (pointerOperators_tidy tidy) fun pointers _ => ?_
  refine .branch (fun _ => .pure) fun _ => .acceptNever rfl rfl ?_
  refine .bind (declaratorCore_tidy tidy mode) fun core _ => ?_
  exact .bind (declaratorSuffixes_tidy tidy mode) fun _ _ => .pure

end

end CppSyntax.Grammar
