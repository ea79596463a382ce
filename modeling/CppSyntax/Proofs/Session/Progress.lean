import CppSyntax.Proofs.Gathering.Parsed
import CppSyntax.Proofs.Gathering.Repetition
import CppSyntax.Proofs.Session.Resumption

/-!
A session always makes progress. Every step has an answer, the cursor never goes back and never passes
the end token, and whatever has been read, a token of it has been.
-/

set_option synthInstance.maxSize 4096

namespace CppSyntax

open Grammar

variable {session after : Session}

theorem Session.Stands.remaining (stands : session.Stands) :
    session.position + session.state.remaining = session.tokens.length := by
  have counted := congrArg List.length stands.tokens_state
  have inside := stands.inside
  rw [State.tokens, List.length_cons, List.length_drop] at counted
  rw [State.remaining]
  omega

/-- A routine leads on where a parser does that it mirrors. -/
theorem Session.position_lt_of_mirrors [Viewed α] {routine : Routine α} {parser : Parser α} {value : α}
    (stands : session.Stands) (mirrors : Mirrors (.exact session stands) false routine parser)
    (answered : routine session = .answered (.ok value) after)
    (consumes : ∀ found reached, Same .whole value found →
      parser session.context session.state = .done found reached →
        reached.remaining < session.state.remaining) :
    session.position < after.position := by
  have goes := mirrors.mirrors session _ (Likeness.exact_meets_state stands)
  unfold MirrorsAt at goes
  rw [answered] at goes
  cases reply : parser session.context session.state with
  | done found reached =>
    rw [reply] at goes
    obtain ⟨same, meets, extended, _⟩ := goes
    have fewer := consumes found reached same reply
    have before := stands.remaining
    have behind := meets.stands.remaining
    rw [extended.tokens, meets.remaining] at behind
    omega
  | failed error stopped =>
    rw [reply] at goes
    exact goes.elim
  | exhausted =>
    rw [reply] at goes
    exact goes.elim

/-- The steps of a loop mirror those of the same loop of a parser. -/
theorem Grammar.Repeats.mirrored {L : Likeness} {g : Grammar Routine} {h : Grammar Parser}
    [Paired L g h] {step : α → Routine (α ⊕ β)} (repeats : g.Repeats step) :
    ∃ (_ : Viewed α) (_ : Viewed β) (parser : α → Parser (α ⊕ β)), h.Repeats parser ∧
      ∀ value, Mirrors L false (step value) (parser value) := by
  cases repeats with
  | members scope =>
    refine ⟨inferInstance, inferInstance, _, .members scope, fun value => ?_⟩
    unfold itemsStep
    infer_instance
  | statements =>
    refine ⟨inferInstance, inferInstance, _, .statements, fun value => ?_⟩
    unfold itemsStep
    infer_instance
  | enumerators =>
    refine ⟨inferInstance, inferInstance, _, .enumerators, fun value => ?_⟩
    unfold enumeratorStep
    infer_instance
  | listItems close =>
    refine ⟨inferInstance, inferInstance, _, .listItems close, fun value => ?_⟩
    infer_instance
  | specifiers scope =>
    refine ⟨inferInstance, inferInstance, _, .specifiers scope, fun value => ?_⟩
    have steps (drafts : Likes L.detail SpecifierDraft) : Mirrors L false
      (g.specifierStep scope drafts.fst) (h.specifierStep scope drafts.snd) := inferInstance
    exact steps ⟨value, value, ⟨rfl⟩⟩

/-- All declarations have been read when the end token is reached. -/
theorem Grammar.translationUnit_ends (g : Grammar Parser) :
    g.translationUnit.Ensures (fun _ => True) fun _ reached => reached.atEnd = true := by
  unfold Grammar.translationUnit
  have declarations : Parser.Ensures (g.loop (fun found : List Declaration => do
      if (← Parser.here).atEnd then return .inr found
      return .inl (found ++ (← g.declaration .inNamespace).toList)) [])
      (fun _ => True) fun _ reached => reached.atEnd = true := by
    refine .iterate (fun _ _ => True) (fun found => .here fun place _ => .branch (fun atEnd => ?_) ?_) _ _
    · refine .pure ?_
      rintro _ rfl
      exact atEnd
    · exact fun _ => .bind .anything fun inner => .pure fun _ _ => trivial
  refine .bind declarations fun found => .here fun place atEnd => .pure ?_
  rintro _ rfl
  exact atEnd

/-- The end token is the last one. -/
theorem Session.Stands.position_of_atEnd {front : List Token} {last : Token} (stands : session.Stands)
    (whole : session.tokens = front ++ [last]) (others : ∀ token ∈ front, token.kind ≠ .endOfFile)
    (atEnd : session.state.atEnd = true) : session.position + 1 = session.tokens.length := by
  have inside := stands.inside
  have length : session.tokens.length = front.length + 1 := by rw [whole, List.length_append]; rfl
  have current : session.state.current = session.tokens[session.position] := by
    have same := stands.tokens_state
    rw [List.drop_eq_getElem_cons inside] at same
    exact (List.cons.inj same).1
  refine Nat.le_antisymm inside (Nat.le_of_not_lt fun before => ?_)
  have early : session.position < front.length := by omega
  have member : session.state.current ∈ front := by
    rw [current]
    simp only [whole, List.getElem_append_left early]
    exact List.getElem_mem early
  exact others _ member (by simpa [State.atEnd, State.kind] using atEnd)

namespace Session

/-- With one repetition of a loop for every token that is left, and with rules that call each other so
deep, the step answers. -/
def Returns (session : Session) (step : Step) : Prop :=
  ∀ fuel depth, session.state.remaining < fuel → 16 * session.state.remaining + 16 ≤ depth →
    ∃ result after,
      (step.routine ⟨fuel, derive fuel depth⟩ : Routine _) session = .answered result after

/-- The step answers, and the cursor goes on, but not past the end token. -/
structure Progresses (session : Session) (step : Step) : Prop where
  returns : session.Returns step
  answers : (step.routine (.ofFuel (Reader.fuel session.state)) : Routine _) session =
    .answered (session.take step).1 (session.take step).2
  onward : session.position ≤ (session.take step).2.position
  stands : (session.take step).2.Stands
  tokens : (session.take step).2.tokens = session.tokens
  statement : step = .statement → (session.take step).1.toBool = true →
    session.position < (session.take step).2.position
  translationUnit : step = .translationUnit → (session.take step).1.toBool = true →
    (session.take step).2.state.atEnd = true ∧
      (session.take step).2.position + 1 = session.tokens.length

/-- Whatever surrounds the cursor and however much fuel there is, a declaration has a token of its own,
and a loop is repeated only behind one. -/
structure Consumes (session : Session) : Prop where
  declaration (fuel depth : Nat) (scope : Scope) {found : Option Declaration} {after : Session} :
    (Grammar.declaration ⟨fuel, derive fuel depth⟩ scope : Routine _) session =
      .answered (.ok found) after → session.position < after.position
  repetition (fuel depth : Nat) {α β : Type} {step : α → Routine (α ⊕ β)} {value again : α}
    {after : Session} : Repeats ⟨fuel, derive fuel depth⟩ step →
      step value session = .answered (.ok (.inl again)) after → session.position < after.position

theorem Stands.state_sorted (stands : session.Stands) (sorted : Token.InOrder session.tokens) :
    Token.InOrder session.state.tokens := by
  rw [stands.tokens_state]
  exact sorted.sublist (List.drop_sublist _ _)

theorem Stands.consumes (stands : session.Stands) (sorted : Token.InOrder session.tokens) :
    session.Consumes := by
  have ended := (Likeness.exact_meets_state stands).ended
  have sorted := stands.state_sorted sorted
  constructor
  · intro fuel depth scope found after answered
    have paired : Paired (.exact session stands) ⟨fuel, derive fuel depth⟩ ⟨fuel, derive fuel depth⟩ :=
      ⟨rfl, derive_mirrors fuel depth⟩
    have mirrors : Mirrors (.exact session stands) false
        (Grammar.declaration ⟨fuel, derive fuel depth⟩ scope)
        (Grammar.declaration ⟨fuel, derive fuel depth⟩ scope) := inferInstance
    exact position_lt_of_mirrors stands mirrors answered
      fun _ _ _ reply => declaration_consumes scope ended sorted reply trivial
  · intro fuel depth α β step value again after repeats answered
    let g : Grammar Parser := ⟨fuel, derive fuel depth⟩
    have paired : Paired (.exact session stands) ⟨fuel, derive fuel depth⟩ g :=
      ⟨rfl, derive_mirrors fuel depth⟩
    obtain ⟨_, _, parser, repeats', mirrors⟩ := repeats.mirrored (L := .exact session stands) (h := g)
    have gathering : g.Gathering := derive_gathering fuel depth
    refine position_lt_of_mirrors stands (mirrors value) answered fun found reached same reply => ?_
    cases found with
    | inl other => exact repeats'.consumes value ended sorted reply rfl
    | inr result => cases same.eq

theorem Step.routine_paired (step : Step) {L : Likeness} {g : Grammar Routine} {h : Grammar Parser}
    [Paired L g h] : Mirrors L false (step.routine g) (step.routine h) := by
  cases step with
  | statement => exact (inferInstance : Mirrors L false g.statement h.statement)
  | translationUnit => exact (inferInstance : Mirrors L false g.translationUnit h.translationUnit)

theorem Stands.returns (stands : session.Stands) (step : Step) : session.Returns step := by
  intro fuel depth fueled deep
  let supply : Supply := ⟨⟨fuel, derive fuel depth⟩, depth, derive_settled fuel depth⟩
  have paired : Paired (.exact session stands) ⟨fuel, derive fuel depth⟩ supply.grammar :=
    ⟨rfl, derive_mirrors fuel depth⟩
  have meets := Likeness.exact_meets_state stands
  have covers : supply.Covers 16 session.state :=
    ⟨meets.ended, show _ ≤ depth + 1 by omega, fueled⟩
  have settled := step.routine_answers supply session.context covers
  have mirrors : Mirrors (.exact session stands) false (step.routine ⟨fuel, derive fuel depth⟩)
    (step.routine supply.grammar) := step.routine_paired
  have goes := mirrors.mirrors session _ meets
  unfold MirrorsAt at goes
  cases outcome : (step.routine ⟨fuel, derive fuel depth⟩ : Routine _) session with
  | answered result after => exact ⟨result, after, rfl⟩
  | exhausted =>
    rw [outcome] at goes
    revert goes settled
    cases step.routine supply.grammar session.context session.state
    · exact fun _ goes => goes.elim
    · exact fun _ goes => goes.elim
    · exact fun settled _ => settled.elim

/-- The answer of the step is that of its routine. -/
theorem Returns.answers {step : Step} (returns : session.Returns step) :
    (step.routine (.ofFuel (Reader.fuel session.state)) : Routine _) session =
      .answered (session.take step).1 (session.take step).2 := by
  obtain ⟨result, after, answered⟩ := returns (Reader.fuel session.state) (Reader.fuel session.state)
    (by unfold Reader.fuel; omega) (by unfold Reader.fuel; omega)
  have answered : (step.routine (.ofFuel (Reader.fuel session.state)) : Routine _) session =
    .answered result after := answered
  rw [answered, take, run, answered]

theorem Stands.statement_onward (stands : session.Stands) (sorted : Token.InOrder session.state.tokens)
    {fuel : Nat} {result : Except SyntaxError Statement}
    (answered : (Grammar.statement (.ofFuel fuel) : Routine _) session = .answered result after)
    (succeeded : result.toBool = true) : session.position < after.position := by
  have ended := (Likeness.exact_meets_state stands).ended
  have mirrors : Mirrors (.exact session stands) false (Grammar.statement (.ofFuel fuel))
      (Grammar.statement (.ofFuel fuel)) := inferInstance
  cases result with
  | error error => cases succeeded
  | ok value =>
    exact position_lt_of_mirrors stands mirrors answered
      fun _ _ _ reply => statement_consumes ended sorted reply trivial

theorem Idle.translationUnit_atEnd (idle : session.Idle)
    (succeeded : (session.take .translationUnit).1.toBool = true) :
    (session.take .translationUnit).2.state.atEnd = true := by
  obtain ⟨same, meets, _⟩ := idle.take_meets .translationUnit (Likeness.exact_meets_state idle.stands)
  rw [meets.sees.atEnd]
  rw [same] at succeeded
  unfold Reader.run at succeeded ⊢
  split at succeeded
  · exact translationUnit_ends _ _ _ trivial _ _ ‹_›
  · cases succeeded
  · cases succeeded

theorem Idle.progresses {front : List Token} {last : Token} (idle : session.Idle)
    (whole : session.tokens = front ++ [last]) (others : ∀ token ∈ front, token.kind ≠ .endOfFile)
    (sorted : Token.InOrder session.tokens) (step : Step) : session.Progresses step := by
  have returns := idle.stands.returns step
  have answers := returns.answers
  obtain ⟨same, tokens⟩ := idle.take step
  obtain ⟨_, meets, extended⟩ := idle.take_meets step (Likeness.exact_meets_state idle.stands)
  have stands := meets.stands
  refine ⟨returns, answers, extended.position, stands, tokens, ?_, ?_⟩
  · rintro rfl succeeded
    exact idle.stands.statement_onward (idle.stands.state_sorted sorted) answers succeeded
  · rintro rfl succeeded
    have atEnd := idle.translationUnit_atEnd succeeded
    rw [← tokens]
    exact ⟨atEnd, stands.position_of_atEnd (tokens.trans whole) others atEnd⟩

/-- The tokens of a text are in order, and only the last one is an end token. -/
theorem tokens_of_source {source : String} {known : List String}
    (opened : ofSource source known = .ok session) : Token.InOrder session.tokens ∧
      ∃ front last, session.tokens = front ++ [last] ∧ ∀ token ∈ front, token.kind ≠ .endOfFile := by
  unfold ofSource at opened
  split at opened
  · rename_i tokens lexed
    cases opened
    obtain ⟨_, front, last, whole, _, others⟩ := Token.ofSource_divide lexed
    exact ⟨Token.ofSource_inOrder lexed, front, last, whole, others⟩
  · cases opened

/-- After any steps over a text, failed ones among them, the next one answers and makes progress, and
whatever is read of the text on the way has a token of its own. -/
theorem takeAll_progresses {source : String} {known : List String}
    (opened : ofSource source known = .ok session) (steps : List Step) (step : Step) :
    (session.takeAll steps).Progresses step ∧
      ∀ inner : Session, inner.tokens = session.tokens → inner.position < session.tokens.length →
        inner.Consumes := by
  obtain ⟨idle, tokens⟩ := (idle_of_source opened).takeAll steps
  obtain ⟨sorted, front, last, whole, others⟩ := tokens_of_source opened
  constructor
  · exact idle.progresses (tokens.trans whole) others (tokens ▸ sorted) step
  · intro inner same inside
    have stands : inner.Stands := ⟨same ▸ inside, same ▸ (stands_of_source opened).ended⟩
    exact stands.consumes (same ▸ sorted)

/-- A step that fails, and one that reads all that it has left. -/
theorem takeAll_progresses_past_failure :
    let source := "goto ; struct A { enum E { a, b } e[2] = {a, b}; int f() { return a; } };"
    ∃ session, ofSource source [] = .ok session ∧ (session.take .statement).1.toBool = false ∧
      ((session.takeAll [.statement]).take .translationUnit).1.toBool = true ∧
      (session.takeAll [.statement]).Progresses .translationUnit ∧
      ∀ inner : Session, inner.tokens = session.tokens → inner.position < session.tokens.length →
        inner.Consumes := by
  intro source
  have computed : (ofSource source []).toOption.map (fun session =>
      ((session.take .statement).1.toBool,
        ((session.takeAll [.statement]).take .translationUnit).1.toBool)) = some (false, true) := by
    decide +kernel
  obtain ⟨session, found, shape⟩ := Option.map_eq_some_iff.mp computed
  have opened := toOption_eq_some.mp found
  obtain ⟨fails, reads⟩ := Prod.mk.inj shape
  exact ⟨session, opened, fails, reads, takeAll_progresses opened [.statement] .translationUnit⟩

end Session

end CppSyntax
