import CppSyntax.Proofs.Guess.Promise

/-!
Names, and the template arguments behind them. Nothing but a `>` outside of the brackets that they open
closes template arguments, and in an expression only few tokens may follow it.
-/

namespace CppSyntax.Grammar

open CppSyntax.Parser

variable {g : Grammar Parser} {context : Context} {region : Region}

private theorem type_steps {mark : Punctuator} {depth : Nat}
    (allowed : Region.type.allows (.punctuator mark) = true) :
    Region.type.Steps (.punctuator mark) depth depth := by
  have plain : (TokenKind.punctuator mark).opensBracket = false ∧
      (TokenKind.punctuator mark).closesBracket = false ∧ (TokenKind.punctuator mark).isStop = false := by
    cases mark <;> first | cases allowed; done | exact ⟨rfl, rfl, rfl⟩
  exact .token plain.1 plain.2.1 plain.2.2 (.inr allowed)

theorem qualifiers_tidy : g.qualifiers.Keeps context region := by
  refine .iterate (fun cv state => ?_) _ _
  exact .acceptWordNever (by decide) (.acceptWordNever (by decide) .pure)

section

variable (tidy : g.Tidy)

include tidy

theorem memberPointerScope_tidy : g.memberPointerScope.Keeps context .type :=
  fun _ => .bind (tidy.name false) fun _ _ => .expectNever rfl rfl

theorem pointerOperators_tidy : g.pointerOperators.Keeps context .type := by
  refine .iterate (fun found state => ?_) _ _
  refine .accept (type_steps rfl) (fun _ => .bind qualifiers_tidy fun _ _ => .pure) ?_
  refine .accept (type_steps rfl) (fun _ => .pure) ?_
  refine .accept (type_steps rfl) (fun _ => .pure) (.here (.branch (fun _ => ?_) fun _ => .pure))
  refine .attempt (memberPointerScope_tidy tidy) (fun scope _ => ?_) .pure
  exact .bind qualifiers_tidy fun _ _ => .pure

theorem typeArgument_tidy : g.typeArgument.Keeps context .type :=
  fun _ => .bind (typeId_tidy tidy) fun _ _ => .here (.branch (fun _ => .pure) fun _ => .fail _)

theorem templateArgument_tidy (inside : context.inTemplateArguments = true) :
    g.templateArgument.Keeps context .argument := by
  have value : (Tree.valueArgument <$> g.conditional).Keeps context .argument := by
    have keeps : g.conditional.Keeps context context.region := conditional_tidy tidy
    rw [Context.region, if_pos inside] at keeps
    exact .map keeps
  have ending (argument : Tree .templateArgument) : ((do
      if ← accept .ellipsis then return .packArgument argument else return argument :
        Parser (Tree .templateArgument))).Keeps context .argument :=
    fun _ => .acceptNever rfl rfl .pure
  refine fun state => .attempt (typeArgument_tidy tidy).ofType (fun _ _ => ?_) ?_
  · exact ending _ _
  · exact .bind value fun argument => ending argument

/-- What stands between the marks of template arguments. -/
theorem templateArguments_passes {state reached : State} {found : List (Tree .templateArgument)}
    (ordinary : Ordinary state.glyphs)
    (answered : g.templateArguments context state = .done found reached) :
    ∃ less inner greater, state.glyphs = less :: inner ∧ less.kind = .punctuator .less ∧
      greater.kind = .punctuator .greater ∧
      Passes .argument 0 inner 0 (greater :: reached.glyphs) := by
  obtain ⟨_, _, opened, answered⟩ := done_of_bind answered
  obtain ⟨opens, rfl⟩ := done_of_expect opened
  obtain ⟨_, behind, between, answered⟩ := done_of_bind answered
  obtain ⟨_, _, closed, answered⟩ := done_of_bind answered
  obtain ⟨closes, rfl⟩ := done_of_expect closed
  cases answered
  have items : (nested (angleCloses true do
      if (← here).isAt .greater then return [] else g.separated g.templateArgument)).Keeps context
        .argument := by
    refine .nested (.angleCloses fun state => .here (.branch (fun _ => .pure) fun _ => ?_))
    refine Keeps.iterate (fun items state => ?_) _ _ state
    refine .bind (templateArgument_tidy tidy rfl) fun item _ => ?_
    exact .accept (.token rfl rfl rfl (.inr rfl)) (fun _ => .pure) .pure
  have front := State.glyphs_ordinary ordinary (by rw [opens]; rfl)
  have later : Ordinary state.next.glyphs := (front ▸ ordinary).tail (by
    rw [show state.current.glyph.kind = _ from opens]
    rfl)
  have inside := items _ later _ _ between
  have back := State.glyphs_ordinary (inside.ordinary later) (by rw [closes]; rfl)
  exact ⟨_, _, behind.current.glyph, front, opens, closes, back ▸ inside⟩

/-- Behind the template arguments of an expression stands a token that may follow them. -/
theorem fittingTemplateArguments_passes {state reached : State} {inExpression : Bool}
    {found : List (Tree .templateArgument)} (ordinary : Ordinary state.glyphs)
    (answered : g.fittingTemplateArguments inExpression context state = .done found reached) :
    ∃ less inner greater, state.glyphs = less :: inner ∧ less.kind = .punctuator .less ∧
      greater.kind = .punctuator .greater ∧
      Passes .argument 0 inner 0 (greater :: reached.glyphs) ∧
      (inExpression = true → canFollowTemplateId reached.kind = true) := by
  obtain ⟨_, behind, arguments, answered⟩ := done_of_bind answered
  obtain ⟨less, inner, greater, whole, opens, closes, passes⟩ :=
    templateArguments_passes tidy ordinary arguments
  have looked : (if inExpression && !canFollowTemplateId behind.kind
      then (fail (.phrase "token after template arguments") >>= fun _ => pure _ : Parser _)
      else pure _) context behind = .done found reached := answered
  split at looked
  · cases looked
  · rename_i fits
    cases looked
    refine ⟨less, inner, greater, whole, opens, closes, passes, fun isExpression => ?_⟩
    simpa [isExpression] using fits

theorem plainSegment_tidy (inExpression marked : Bool) :
    (g.plainSegment inExpression marked).Keeps context .type := by
  intro state ordinary value reached answered
  obtain ⟨ident, behind, identified, answered⟩ := done_of_bind answered
  obtain ⟨name, rfl⟩ := done_of_expectIdentifier identified
  have front := State.glyphs_ordinary ordinary (by rw [name]; rfl)
  have named {last : List Glyph} (later : Passes .type 0 state.next.glyphs 0 last) :
      Passes .type 0 state.glyphs 0 last := by
    have steps : Region.type.Steps state.current.glyph.kind 0 0 := by
      rw [show state.current.glyph.kind = _ from name]
      exact .token rfl rfl rfl (.inr rfl)
    exact front ▸ steps.passes later
  have looked : (if state.next.isAt .less
      then (attempt (g.fittingTemplateArguments inExpression) >>= _ : Parser _)
      else pure (.plainSegment ident marked)) context state.next = .done value reached := answered
  split at looked
  · obtain ⟨found, place, tried, answered⟩ := done_of_bind looked
    obtain ⟨rfl, rfl⟩ | ⟨arguments, rfl, read⟩ := done_of_attempt tried
    · cases answered
      exact named .stay
    · cases answered
      have later := (front ▸ ordinary).tail (by
        rw [show state.current.glyph.kind = _ from name]
        rfl)
      obtain ⟨less, inner, greater, whole, opens, closes, passes, _⟩ :=
        fittingTemplateArguments_passes tidy later read
      rw [front, whole]
      exact .arguments name opens closes passes .stay
  · cases looked
    exact named .stay

theorem segment_tidy (inExpression : Bool) : (g.segment inExpression).Keeps context .type := by
  refine fun state => .acceptWordNever (by decide) ?_
  refine .accept (type_steps rfl) (fun _ => .bind .expectIdentifier fun _ _ => .pure) ?_
  refine .acceptWordNever (by decide) ?_
  exact .bind (plainSegment_tidy tidy _ _) fun _ _ => .pure

theorem nameRule_tidy (inExpression : Bool) : (g.nameRule inExpression).Keeps context .type := by
  have step (segments : List (Tree .segment)) :
      (g.nameStep inExpression segments).Keeps context .type := by
    refine fun state => .bind (segment_tidy tidy _) fun found place => .here ?_
    refine .ordinarily fun ordinary => ?_
    rw [State.isAt_ordinary ordinary rfl rfl, Bool.and_false, Bool.false_and]
    exact .pure
  refine fun state => .acceptNever rfl rfl ?_
  exact .bind (.iterate step _ _) fun _ _ => .pure

end

end CppSyntax.Grammar
