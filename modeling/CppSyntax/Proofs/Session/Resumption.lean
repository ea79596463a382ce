import CppSyntax.Proofs.Session.Standing

/-!
A session can be used on after any step, whether the step has succeeded or failed. Between two steps
nothing surrounds the cursor, and what a step answers depends only on the tokens that are left and on
the set of the names known as types.
-/

namespace CppSyntax

namespace Session

instance Step.viewed : (step : Step) → Viewed step.Product
  | .statement => inferInstanceAs (Viewed Statement)
  | .translationUnit => inferInstanceAs (Viewed TranslationUnit)

variable {session : Session}

theorem Step.routine_mirrors (step : Step) {L : Likeness} (fuel : Nat) :
    Mirrors L false (step.routine (.ofFuel fuel) : Routine _) (step.routine (.ofFuel fuel)) := by
  cases step with
  | statement =>
    exact (inferInstance : Mirrors L false (Grammar.statement (.ofFuel fuel))
      (Grammar.statement (.ofFuel fuel)))
  | translationUnit =>
    exact (inferInstance : Mirrors L false (Grammar.translationUnit (.ofFuel fuel))
      (Grammar.translationUnit (.ofFuel fuel)))

theorem Step.routine_answers (step : Step) {state : State} (supply : Supply) :
    AnswersAt supply 16 Never state (step.routine supply.grammar) := by
  cases step with
  | statement =>
    exact (.anywhere : AnswersAt supply 16 Never state supply.grammar.statement)
  | translationUnit =>
    exact (.anywhere : AnswersAt supply 16 Never state supply.grammar.translationUnit)

theorem Step.eq_of_same (step : Step) {first second : step.Product}
    (same : Same .whole first second) : first = second := by
  cases step <;> exact Tree.eq_of_same same

/-- Nothing surrounds the cursor, which stands at a token. -/
structure Idle (session : Session) : Prop where
  stands : session.Stands
  depth : session.depth = 0
  classes : session.classes = []
  inTemplateArguments : session.inTemplateArguments = false

theorem Idle.context (idle : session.Idle) : session.context = .top := by
  rw [Session.context, idle.depth, idle.classes, idle.inTemplateArguments]
  rfl

theorem Idle.of_fresh {known : List String} {tokens : List Token}
    (stands : (fresh known tokens).Stands) : (fresh known tokens).Idle :=
  ⟨stands, rfl, rfl, rfl⟩

/-- Where both see the same tokens, a step answers what a reader answers, and the two meet again. -/
theorem Idle.take_meets {start : Session} {stands : start.Stands} (idle : session.Idle) (step : Step)
    {state : State} (meets : (Likeness.exact start stands).Meets session state) :
    (session.take step).1 = (Reader.run step.routine state).1 ∧
      (Likeness.exact start stands).Meets (session.take step).2 (Reader.run step.routine state).2 ∧
      session.Extends (session.take step).2 :=
  meets.run_exact idle.context step.routine step.routine step.routine_mirrors step.routine_answers
    fun _ _ => step.eq_of_same

/-- Behind a step nothing surrounds the cursor again, and the tokens are as before. -/
theorem Idle.take (idle : session.Idle) (step : Step) :
    (session.take step).2.Idle ∧ (session.take step).2.tokens = session.tokens := by
  obtain ⟨_, again, extended⟩ := idle.take_meets step (Likeness.exact_meets_state idle.stands)
  exact ⟨⟨again.stands, extended.depth.trans idle.depth, extended.classes.trans idle.classes,
    extended.inTemplateArguments.trans idle.inTemplateArguments⟩, extended.tokens⟩

/-- A step answers what a reader answers that sees the same tokens and knows the same names. -/
theorem Idle.take_like (idle : session.Idle) (step : Step) {state : State}
    (tokens : state.tokens = session.tokens.drop session.position)
    (known : ∀ ident, ident ∈ session.known ↔ ident ∈ state.typeNames) :
    (session.take step).1 = (Reader.run step.routine state).1 :=
  (idle.take_meets step (Likeness.exact_meets idle.stands tokens known)).1

theorem Idle.takeAll (idle : session.Idle) (steps : List Step) :
    (session.takeAll steps).Idle ∧ (session.takeAll steps).tokens = session.tokens := by
  induction steps generalizing session with
  | nil => exact ⟨idle, rfl⟩
  | cons step steps ih =>
    obtain ⟨first, tokens⟩ := idle.take step
    obtain ⟨rest, tokens'⟩ := ih first
    exact ⟨rest, tokens'.trans tokens⟩

theorem idle_of_source {source : String} {known : List String}
    (opened : ofSource source known = .ok session) : session.Idle := by
  have stands := stands_of_source opened
  unfold ofSource at opened
  split at opened
  · cases opened
    exact .of_fresh stands
  · cases opened

/-- A session answers every step as a reader does that is at the same place. -/
theorem takeAll_reads {source : String} {known : List String} {start : State}
    (opened : ofSource source known = .ok session) (placed : Reader.ofSource source known = .ok start)
    (steps : List Step) (step : Step) :
    ((session.takeAll steps).take step).1 = (Reader.run step.routine
      (steps.foldl (fun place step => (Reader.run step.routine place).2) start)).1 := by
  have idle := idle_of_source opened
  obtain ⟨tokens, rfl, rfl⟩ : ∃ tokens, session = fresh (libraryTypeNames ++ known) tokens ∧
      start = .start (libraryTypeNames ++ known) tokens := by
    unfold ofSource at opened
    unfold Reader.ofSource at placed
    split at opened
    · rename_i tokens lexed
      rw [lexed] at placed
      cases opened
      cases placed
      exact ⟨tokens, rfl, rfl⟩
    · cases opened
  have meets := Likeness.exact_meets idle.stands
    (State.tokens_start (List.ne_nil_of_length_pos idle.stands.inside) _) fun ident => by
      rw [← state_typeNames]
      rfl
  suffices general : ∀ (current : Session) (place : State), current.Idle →
      (Likeness.exact _ idle.stands).Meets current place →
      ((current.takeAll steps).take step).1 = (Reader.run step.routine
        (steps.foldl (fun place step => (Reader.run step.routine place).2) place)).1 from
    general _ _ idle meets
  induction steps with
  | nil => exact fun current place idle meets => (idle.take_meets step meets).1
  | cons first rest ih =>
    exact fun current place idle meets =>
      ih _ _ (idle.take first).1 (idle.take_meets first meets).2.1

/-- After any steps, failed ones among them, nothing surrounds the cursor, the tokens are as before,
and the next step answers like one of a fresh session on the tokens that are left, in which the same
names are known. -/
theorem takeAll_resumes {source : String} {known : List String}
    (opened : ofSource source known = .ok session) (steps : List Step) :
    let reached := session.takeAll steps
    reached.depth = 0 ∧ reached.classes = [] ∧ reached.inTemplateArguments = false ∧
      reached.tokens = session.tokens ∧
      ∀ (step : Step) (names : List String), (∀ ident, ident ∈ names ↔ ident ∈ reached.known) →
        (reached.take step).1 =
          ((fresh names (reached.tokens.drop reached.position)).take step).1 := by
  intro reached
  obtain ⟨idle, tokens⟩ := (idle_of_source opened).takeAll steps
  refine ⟨idle.depth, idle.classes, idle.inTemplateArguments, tokens, fun step names same => ?_⟩
  have left := idle.stands.tokens_state
  have stands : (fresh names (reached.tokens.drop reached.position)).Stands := by
    refine ⟨?_, fun token last => idle.stands.ended token ?_⟩
    · show 0 < (reached.tokens.drop reached.position).length
      rw [List.length_drop]
      exact Nat.sub_pos_of_lt idle.stands.inside
    · rw [← last]
      show _ = (reached.tokens.drop reached.position).getLast?
      rw [List.getLast?_drop, if_neg (Nat.not_le_of_lt idle.stands.inside)]
  have known : ∀ ident, ident ∈ names ↔ ident ∈ reached.state.typeNames := fun ident => by
    rw [state_typeNames]
    exact same ident
  rw [idle.take_like step left fun ident => by rw [state_typeNames],
    (Idle.of_fresh stands).take_like step left known]

/-- A step that fails in the body of a class, which it has made known as a type, and another step. -/
theorem takeAll_resumes_in_class : ∃ session,
    ofSource "struct A { int f( ; } ; A * a;" ["T"] = .ok session ∧
      (session.take .statement).1.toBool = false ∧
      let reached := session.takeAll [.statement]
      reached.position = 6 ∧ reached.journal = ["A"] ∧
      (reached.depth = 0 ∧ reached.classes = [] ∧ reached.inTemplateArguments = false ∧
        reached.tokens = session.tokens) ∧
      (reached.take .translationUnit).1 =
        ((fresh reached.known.reverse (reached.tokens.drop reached.position)).take
          .translationUnit).1 := by
  have computed : (ofSource "struct A { int f( ; } ; A * a;" ["T"]).toOption.map (fun session =>
      ((session.take .statement).1.toBool, (session.takeAll [.statement]).position,
        (session.takeAll [.statement]).journal)) = some (false, 6, ["A"]) := by
    decide +kernel
  obtain ⟨session, found, shape⟩ := Option.map_eq_some_iff.mp computed
  have opened := toOption_eq_some.mp found
  obtain ⟨fails, position, journal⟩ := Prod.mk.inj shape |>.imp_right Prod.mk.inj
  obtain ⟨depth, classes, flag, tokens, next⟩ := takeAll_resumes opened [.statement]
  exact ⟨session, opened, fails, position, journal, ⟨depth, classes, flag, tokens⟩,
    next .translationUnit _ fun _ => List.mem_reverse⟩

end Session

end CppSyntax
