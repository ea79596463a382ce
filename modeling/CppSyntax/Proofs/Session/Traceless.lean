import CppSyntax.Proofs.Session.Standing

/-!
Tentative runs leave no trace. Whatever a routine has done before it fails, in tentative runs of its own
and in half-read classes among others, taking it back gives the very session that was there before.
-/

namespace CppSyntax

namespace Grammar

variable {m : Type → Type} [Monad m] [Reading m]

/-- The routines that the rules run tentatively, to take them back if they fail or in any case. -/
inductive Tentative (g : Grammar m) : {α : Type} → m α → Prop
  | memberPointerScope : Tentative g g.memberPointerScope
  | typeArgument : Tentative g g.typeArgument
  | templateArguments (inExpression : Bool) :
    Tentative g (g.fittingTemplateArguments inExpression)
  | declaratorName (scope : Scope) (enclosing : Option String) :
    Tentative g (g.declaratorName scope enclosing)
  | parameterStart : Tentative g g.parameterStart
  | fold : Tentative g (Parser.angleCloses false g.fold)
  | parenthesizedType : Tentative g g.parenthesizedType
  | placementArguments : Tentative g g.placementArguments
  | castHead : Tentative g g.castHead
  | declarationStart : Tentative g g.declarationStart
  | declarationStatement : Tentative g g.declarationStatement
  | expressionStatement : Tentative g g.expressionStatement
  | declarationOrExpression : Tentative g g.declarationOrExpression
  | conditionDeclaration : Tentative g g.conditionDeclaration
  | rangedHeader (init : Option Statement) : Tentative g (g.rangedHeader init)

end Grammar

/-- The error of a run that failed, and the session that it left. -/
def Outcome.failure? : Outcome α → Option (SyntaxError × Session)
  | .answered (.error error) after => some (error, after)
  | _ => none

theorem Outcome.failure?_eq_some {outcome : Outcome α} {error : SyntaxError} {after : Session} :
    outcome.failure? = some (error, after) ↔ outcome = .answered (.error error) after := by
  rcases outcome with ⟨_ | _, _⟩ | _ <;> simp [failure?]

namespace Routine

open CppSyntax.Parser

/-- If the routine fails, or is only looked ahead with, the session is as before. -/
structure LeavesNoTrace (routine : Routine α) (session : Session) : Prop where
  speculate : ∀ error after,
    Parser.speculate routine session = .answered (.ok (.error error)) after → after = session
  attempt : ∀ after, Parser.attempt routine session = .answered (.ok none) after → after = session
  lookahead : ∀ result after,
    Parser.lookahead routine session = .answered (.ok result) after → after = session

/-- The routine answers, and only extends the session. -/
def Extends (routine : Routine α) (session : Session) : Prop :=
  ∀ result after, routine session = .answered result after → session.Extends after

variable {routine : Routine α} {session : Session}

theorem speculate_cases (extending : routine.Extends session) :
    Parser.speculate routine session = .exhausted ∨
      (∃ value after, Parser.speculate routine session = .answered (.ok (.ok value)) after) ∨
      ∃ error, Parser.speculate routine session = .answered (.ok (.error error)) session := by
  show tentative routine session = _ ∨ (∃ _ _, tentative routine session = _) ∨
    ∃ _, tentative routine session = _
  unfold tentative
  cases outcome : routine session with
  | exhausted => exact .inl rfl
  | answered result after =>
    cases result with
    | ok value => exact .inr (.inl ⟨value, _, rfl⟩)
    | error error =>
      exact .inr (.inr ⟨error,
        congrArg (Outcome.answered (.ok (Except.error error))) (extending _ _ outcome).rollBack⟩)

theorem lookahead_cases (extending : routine.Extends session) :
    Parser.lookahead routine session = .exhausted ∨
      ∃ result, Parser.lookahead routine session = .answered (.ok result) session := by
  rw [lookahead_apply]
  cases outcome : routine session with
  | exhausted => exact .inl rfl
  | answered result after =>
    exact .inr ⟨result.toOption,
      congrArg (Outcome.answered (.ok result.toOption)) (extending _ _ outcome).rollBack⟩

/-- What only extends the session leaves no trace once it is taken back. -/
theorem Extends.leavesNoTrace (extending : routine.Extends session) :
    routine.LeavesNoTrace session := by
  refine ⟨fun error after failed => ?_, fun after failed => ?_, fun result after looked => ?_⟩
  · rcases speculate_cases extending with outcome | ⟨_, _, outcome⟩ | ⟨_, outcome⟩
    all_goals
      rw [outcome] at failed
      cases failed
    rfl
  · have same : Parser.attempt routine session = Routine.bind (Parser.speculate routine)
        (fun result => Routine.pure result.toOption) session := rfl
    rw [same, Routine.bind] at failed
    rcases speculate_cases extending with outcome | ⟨_, _, outcome⟩ | ⟨_, outcome⟩
    all_goals
      rw [outcome] at failed
      cases failed
    rfl
  · rcases lookahead_cases extending with outcome | ⟨_, outcome⟩
    all_goals
      rw [outcome] at looked
      cases looked
    rfl

end Routine

/-- A routine that mirrors a parser of the tokens that are left only extends the session. -/
theorem Routine.extends_of_mirrors {session : Session} (stands : session.Stands) [Viewed α]
    {routine : Routine α} {parser : Parser α}
    (mirrors : Mirrors (.exact session stands) false routine parser) : routine.Extends session := by
  intro result after answered
  have goes := mirrors.mirrors session _ (Likeness.exact_meets_state stands)
  unfold MirrorsAt at goes
  rw [answered] at goes
  revert goes
  cases result <;> cases parser session.context session.state <;> intro goes
  case ok.done => exact goes.2.2.1
  case error.failed => exact goes.2.2
  all_goals exact goes.elim

/-- Each of them mirrors a parser that answers with a supply. -/
theorem Grammar.Tentative.mirrored {L : Likeness} {g : Grammar Routine} (supply : Supply)
    [Paired L g supply.grammar] {routine : Routine α} (tentative : Tentative g routine) :
    ∃ (_ : Viewed α) (parser : Parser α), Mirrors L false routine parser ∧
      Answers supply 16 Never parser := by
  cases tentative with
  | memberPointerScope => 
    exact ⟨inferInstance, supply.grammar.memberPointerScope, inferInstance, inferInstance⟩
  | typeArgument =>
    exact ⟨inferInstance, supply.grammar.typeArgument, inferInstance, inferInstance⟩
  | templateArguments inExpression =>
    exact ⟨inferInstance, supply.grammar.fittingTemplateArguments inExpression, inferInstance,
      inferInstance⟩
  | declaratorName scope enclosing =>
    exact ⟨inferInstance, supply.grammar.declaratorName scope enclosing, inferInstance, inferInstance⟩
  | parameterStart =>
    refine ⟨inferInstance, supply.grammar.parameterStart, inferInstance, ?_⟩
    unfold Grammar.parameterStart
    infer_instance
  | fold =>
    exact ⟨inferInstance, Parser.angleCloses false supply.grammar.fold, inferInstance, inferInstance⟩
  | parenthesizedType =>
    exact ⟨inferInstance, supply.grammar.parenthesizedType, inferInstance, inferInstance⟩
  | placementArguments =>
    exact ⟨inferInstance, supply.grammar.placementArguments, inferInstance, inferInstance⟩
  | castHead => exact ⟨inferInstance, supply.grammar.castHead, inferInstance, inferInstance⟩
  | declarationStart =>
    exact ⟨inferInstance, supply.grammar.declarationStart, inferInstance, inferInstance⟩
  | declarationStatement =>
    exact ⟨inferInstance, supply.grammar.declarationStatement, inferInstance, inferInstance⟩
  | expressionStatement =>
    exact ⟨inferInstance, supply.grammar.expressionStatement, inferInstance, inferInstance⟩
  | declarationOrExpression =>
    exact ⟨inferInstance, supply.grammar.declarationOrExpression, inferInstance, inferInstance⟩
  | conditionDeclaration =>
    exact ⟨inferInstance, supply.grammar.conditionDeclaration, inferInstance, inferInstance⟩
  | rangedHeader init =>
    exact ⟨inferInstance, supply.grammar.rangedHeader init, inferInstance, inferInstance⟩

/-- What a tentative routine of a derived grammar answers, it answers after an extension only, and it
does answer if fuel and depth suffice. -/
theorem Grammar.Tentative.answered {fuel depth : Nat} {routine : Routine α} {session : Session}
    (tentative : Tentative ⟨fuel, derive fuel depth⟩ routine) (stands : session.Stands) :
    routine.Extends session ∧
      (Reader.fuel session.state ≤ fuel → Reader.fuel session.state ≤ depth →
        ∃ result after, routine session = .answered result after) := by
  let supply : Supply := ⟨⟨fuel, derive fuel depth⟩, depth, derive_settled fuel depth⟩
  have paired : Paired (.exact session stands) ⟨fuel, derive fuel depth⟩ supply.grammar :=
    ⟨rfl, derive_mirrors fuel depth⟩
  obtain ⟨viewed, parser, mirrors, answers⟩ :=
    tentative.mirrored (L := .exact session stands) supply
  refine ⟨Routine.extends_of_mirrors stands mirrors, fun fueled deep => ?_⟩
  have meets := Likeness.exact_meets_state stands
  have covers : supply.Covers 16 session.state := by
    unfold Reader.fuel at fueled deep
    exact ⟨meets.ended, show _ ≤ depth + 1 by omega, show _ < fuel by omega⟩
  have settled := answers.settled session.context session.state covers
  have goes := mirrors.mirrors session _ meets
  unfold MirrorsAt at goes
  cases outcome : routine session with
  | answered result after => exact ⟨result, after, rfl⟩
  | exhausted =>
    rw [outcome] at goes
    revert goes settled
    cases parser session.context session.state
    · exact fun _ goes => goes.elim
    · exact fun _ goes => goes.elim
    · exact fun settled _ => settled.elim

/-- The statement starts with a name or a type that an expression may start with, too. -/
def State.startsLikeType (state : State) : Bool :=
  match state.kind with
  | .identifier _ => true
  | .keyword word => word.isBuiltinType || word == .kwDecltype
  | .punctuator .scope => !(state.isAheadWord 1 .kwNew || state.isAheadWord 1 .kwDelete)
  | _ => false

theorem State.statementStart_of_startsLikeType {state : State} (starts : state.startsLikeType = true) :
    state.statementStart = .either := by
  unfold startsLikeType at starts
  unfold statementStart
  cases kind : state.kind with
  | keyword word =>
    rw [kind] at starts
    cases word <;> first | rfl | cases starts
  | identifier ident => rfl
  | punctuator mark =>
    rw [kind] at starts
    by_cases scope : mark = .scope
    · subst scope
      exact if_neg (by simpa using starts)
    · cases mark <;> first | exact absurd rfl scope | cases starts
  | _ =>
    rw [kind] at starts
    cases starts

namespace Routine

/-- If the routine fails, the session is as before. -/
def FailsInPlace (routine : Routine α) (session : Session) : Prop :=
  ∀ error after, routine session = .answered (.error error) after → after = session

variable {routine : Routine α} {session : Session}

theorem failsInPlace_nested
    (inner : routine.FailsInPlace { session with depth := session.depth + 1 }) :
    (Parser.nested routine).FailsInPlace session := by
  intro error after failed
  change (if Parser.nestingLimit ≤ session.depth then Parser.fail (.phrase "nesting depth limit")
    else Parser.deeper routine : Routine α) session = _ at failed
  split at failed
  · cases failed
    rfl
  · change surrounded _ _ routine session = _ at failed
    unfold surrounded at failed
    cases outcome : routine { session with depth := session.depth + 1 } with
    | exhausted =>
      rw [outcome] at failed
      cases failed
    | answered result stopped =>
      rw [outcome] at failed
      cases failed
      rw [inner _ _ outcome]
      rfl

theorem here_bind (next : State → Routine α) :
    (Parser.here >>= next) session = next session.state session := rfl

theorem map_bind (f : α → β) (next : β → Routine γ) :
    (f <$> routine) >>= next = routine >>= fun value => next (f value) := by
  funext session
  show Routine.bind (Routine.bind routine fun value => Routine.pure (f value)) next session =
    Routine.bind routine (fun value => next (f value)) session
  unfold Routine.bind
  cases routine session with
  | exhausted => rfl
  | answered result after => cases result <;> rfl

/-- What goes on after a tentative run fails in place if it does so only when the run has failed. -/
theorem failsInPlace_tried {next : Except SyntaxError α → Routine β}
    (extending : routine.Extends session)
    (done : ∀ value, ∃ result, next (.ok value) = Routine.pure result)
    (failing : ∀ error, (next (.error error)).FailsInPlace session) :
    (Parser.speculate routine >>= next).FailsInPlace session := by
  intro error after failed
  change Routine.bind (Parser.speculate routine) next session = _ at failed
  unfold Routine.bind at failed
  rcases speculate_cases extending with outcome | ⟨value, _, outcome⟩ | ⟨earlier, outcome⟩
  · rw [outcome] at failed
    cases failed
  · obtain ⟨result, same⟩ := done value
    rw [outcome] at failed
    dsimp only at failed
    rw [same] at failed
    cases failed
  · rw [outcome] at failed
    exact failing earlier error after failed

end Routine

namespace Grammar

open Routine

variable {g : Grammar Routine} {session : Session}

theorem eitherStatement_failsInPlace (start : g.declarationStart.Extends session)
    (declared : g.declarationStatement.Extends session)
    (evaluated : g.expressionStatement.Extends session) :
    g.eitherStatement.FailsInPlace session := by
  intro error after failed
  unfold Grammar.eitherStatement at failed
  change Routine.bind (Parser.lookahead g.declarationStart) _ session = _ at failed
  unfold Routine.bind at failed
  rcases lookahead_cases start with outcome | ⟨found, outcome⟩
  · rw [outcome] at failed
    cases failed
  · rw [outcome] at failed
    dsimp only at failed
    split at failed
    · rw [map_bind] at failed
      refine failsInPlace_tried declared (fun value => ?_) (fun earlier => ?_) error after failed
      · exact ⟨value, rfl⟩
      · refine failsInPlace_tried evaluated (fun value => ⟨value, rfl⟩) fun later _ _ stopped => ?_
        cases stopped
        rfl
    · refine failsInPlace_tried evaluated (fun value => ?_) (fun later _ _ stopped => ?_) error after
        failed
      · exact ⟨value, rfl⟩
      · cases stopped
        rfl

theorem statementForm?_of_startsLikeType {state : State} (starts : state.startsLikeType = true) :
    g.statementForm? state = none ∨ ∃ ident, g.statementForm? state = some (do
      Parser.advanceBy 2
      return .namedLabel ident) := by
  unfold State.startsLikeType at starts
  unfold Grammar.statementForm?
  cases kind : state.kind with
  | keyword word =>
    rw [kind] at starts
    cases word <;> first | exact .inl rfl | cases starts
  | identifier ident =>
    dsimp only
    split
    · exact .inr ⟨ident, rfl⟩
    · exact .inl rfl
  | punctuator mark =>
    rw [kind] at starts
    cases mark <;> first | exact .inl rfl | cases starts
  | _ =>
    rw [kind] at starts
    cases starts

/-- A statement that starts like a type is a label, which does not fail, or may be either. -/
theorem statementRule_failsInPlace (starts : session.state.startsLikeType = true)
    (either : g.eitherStatement.FailsInPlace { session with depth := session.depth + 1 }) :
    g.statementRule.FailsInPlace session := by
  refine failsInPlace_nested fun error after failed => ?_
  rw [here_bind] at failed
  rcases statementForm?_of_startsLikeType starts with form | ⟨ident, form⟩
  · rw [show Session.state { session with depth := session.depth + 1 } = session.state from rfl,
      form] at failed
    dsimp only at failed
    unfold Grammar.declarationOrExpression at failed
    rw [here_bind, show Session.state { session with depth := session.depth + 1 } = session.state
      from rfl, State.statementStart_of_startsLikeType starts] at failed
    exact either error after failed
  · rw [show Session.state { session with depth := session.depth + 1 } = session.state from rfl,
      form] at failed
    cases failed

end Grammar

namespace Session

variable {session : Session}

/-- Wherever a session stands, and however much fuel is left, a tentative routine leaves no trace, and
it answers if the fuel suffices. A statement that starts like a type fails in place. -/
theorem tentative_leavesNoTrace (fuel depth : Nat) (stands : session.Stands) :
    let g : Grammar Routine := ⟨fuel, Grammar.derive fuel depth⟩
    (∀ {α : Type} (routine : Routine α), g.Tentative routine →
      routine.LeavesNoTrace session ∧
        (Reader.fuel session.state ≤ fuel → Reader.fuel session.state ≤ depth →
          ∃ result after, routine session = .answered result after)) ∧
    (session.state.startsLikeType = true → g.statement.FailsInPlace session) := by
  refine ⟨fun routine tentative => ⟨?_, fun fueled deep => ?_⟩, fun starts => ?_⟩
  · exact (tentative.answered stands).1.leavesNoTrace
  · exact (tentative.answered stands).2 fueled deep
  · cases depth with
    | zero => exact fun _ _ failed => nomatch failed
    | succ depth =>
      refine Grammar.statementRule_failsInPlace starts ?_
      have stands' : Session.Stands { session with depth := session.depth + 1 } :=
        ⟨stands.inside, stands.ended⟩
      exact Grammar.eitherStatement_failsInPlace
        (Grammar.Tentative.declarationStart.answered stands').1
        (Grammar.Tentative.declarationStatement.answered stands').1
        (Grammar.Tentative.expressionStatement.answered stands').1

/-- A declaration that fails in the body of a class, where it has made a name known. Neither the
declaration nor the expression that it starts like can be read. -/
theorem tentative_leavesNoTrace_in_class : ∃ session error stopped other,
    ofSource "A f(struct B { int g( ; }" [] = .ok session ∧
      let g : Grammar Routine := ⟨300, Grammar.derive 300 300⟩
      g.declarationStatement session = .answered (.error error) stopped ∧ stopped.journal = ["B"] ∧
        Parser.speculate g.declarationStatement session = .answered (.ok (.error error)) session ∧
        g.statement session = .answered (.error other) session := by
  let g : Grammar Routine := ⟨300, Grammar.derive 300 300⟩
  have computed : (ofSource "A f(struct B { int g( ; }" []).toOption.map (fun session =>
      (session.state.startsLikeType, (g.declarationStatement session).failure?.map (·.2.journal),
        (g.statement session).failure?.isSome)) = some (true, some ["B"], true) := by
    decide +kernel
  obtain ⟨session, found, shape⟩ := Option.map_eq_some_iff.mp computed
  have opened := toOption_eq_some.mp found
  obtain ⟨starts, rest⟩ := Prod.mk.inj shape
  obtain ⟨stops, fails⟩ := Prod.mk.inj rest
  obtain ⟨traceless, inPlace⟩ := tentative_leavesNoTrace 300 300 (stands_of_source opened)
  obtain ⟨⟨error, stopped⟩, declared, journal⟩ := Option.map_eq_some_iff.mp stops
  obtain ⟨⟨other, after⟩, stated⟩ := Option.isSome_iff_exists.mp fails
  have declared := Outcome.failure?_eq_some.mp declared
  have stated := Outcome.failure?_eq_some.mp stated
  obtain rfl := inPlace starts other after stated
  have tried : Parser.speculate g.declarationStatement after =
      .answered (.ok (.error error)) (stopped.rollBack after) := by
    show Routine.tentative g.declarationStatement after = _
    rw [Routine.tentative, declared]
  have restored := (traceless _ .declarationStatement).1.speculate error _ tried
  exact ⟨after, error, stopped, other, opened, declared, journal,
    tried.trans (congrArg (Outcome.answered (.ok (Except.error error))) restored), stated⟩

end Session

end CppSyntax
