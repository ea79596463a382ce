import CppSyntax.Proofs.Session.Likeness

/-!
Routines that mirror parsers. Wherever the two meet, the routine answers as the parser does, and it
runs out of fuel only where the parser does. What is proved of the ways to put parsers together is
found by instances, so that a rule is mirrored once its parts are.
-/

namespace CppSyntax

/-- The outcome of a routine goes with the reply of a parser: both answer alike, or both run out of
fuel. On request a value also says that a token has been read. -/
def Likeness.Goes (L : Likeness) (start : Session) (moves : Bool) (like : α → α → Prop) :
    Outcome α → Reply α → Prop
  | .exhausted, .exhausted => True
  | .answered (.ok first) after, .done second reached =>
    like first second ∧ L.Meets after reached ∧ start.Extends after ∧
      (moves = true → start.position < after.position)
  | .answered (.error first) after, .failed second stopped =>
    L.Reports first second ∧ L.Meets after stopped ∧ start.Extends after
  | _, _ => False

/-- At this place the routine mirrors the parser. -/
def MirrorsAt (L : Likeness) (session : Session) (state : State) (moves : Bool)
    (like : α → α → Prop) (routine : Routine α) (parser : Parser α) : Prop :=
  L.Goes session moves like (routine session) (parser session.context state)

/-- The routine mirrors the parser wherever they meet, with values that are alike in some way. -/
def MirrorsBy (L : Likeness) (moves : Bool) (like : α → α → Prop) (routine : Routine α)
    (parser : Parser α) : Prop :=
  ∀ session state, L.Meets session state → MirrorsAt L session state moves like routine parser

/-- The routine mirrors the parser, with values that count for the same. -/
class Mirrors (L : Likeness) (moves : Bool) [Viewed α] (routine : Routine α) (parser : Parser α) :
    Prop where
  mirrors : MirrorsBy L moves (Same L.detail · ·) routine parser

namespace Likeness.Goes

variable {L : Likeness} {session later : Session} {moves strict : Bool} {like : α → α → Prop}
  {outcome : Outcome α} {reply : Reply α}

theorem mono {other : α → α → Prop} (goes : L.Goes session moves like outcome reply)
    (weaker : ∀ first second, like first second → other first second) :
    L.Goes session moves other outcome reply := by
  cases outcome with
  | exhausted => cases reply <;> exact goes
  | answered result after =>
    cases result <;> cases reply
    case ok.done => exact ⟨weaker _ _ goes.1, goes.2⟩
    case error.failed => exact goes
    all_goals exact goes.elim

/-- What goes with a parser from a later session on goes with it from an earlier one on. -/
theorem from_later (goes : L.Goes later strict like outcome reply) (extended : session.Extends later)
    (moved : moves = true → strict = true ∨ session.position < later.position) :
    L.Goes session moves like outcome reply := by
  cases outcome with
  | exhausted => cases reply <;> exact goes
  | answered result after =>
    cases result <;> cases reply
    case ok.done =>
      obtain ⟨alike, meets, further, read⟩ := goes
      refine ⟨alike, meets, extended.trans further, fun required => ?_⟩
      rcases moved required with strictly | already
      · exact Nat.lt_of_le_of_lt extended.position (read strictly)
      · exact Nat.lt_of_lt_of_le already further.position
    case error.failed =>
      obtain ⟨reports, meets, further⟩ := goes
      exact ⟨reports, meets, extended.trans further⟩
    all_goals exact goes.elim

end Likeness.Goes

theorem Routine.bind_here (f : State → Routine α) (g : α → Routine β) :
    (Parser.here >>= f) >>= g = Parser.here >>= fun state => f state >>= g := rfl

theorem Parser.bind_here (f : State → Parser α) (g : α → Parser β) :
    (here >>= f) >>= g = here >>= fun state => f state >>= g := rfl

namespace MirrorsAt

variable {L : Likeness} {session : Session} {state : State} {moves first second : Bool}
  {like : α → α → Prop} {alike : β → β → Prop} {r : Routine α} {p : Parser α}
  {f : α → Routine β} {g : α → Parser β}

theorem mono {other : α → α → Prop} (mirrors : MirrorsAt L session state moves like r p)
    (weaker : ∀ a b, like a b → other a b) : MirrorsAt L session state moves other r p :=
  Likeness.Goes.mono mirrors weaker

theorem weaken (mirrors : MirrorsAt L session state moves like r p) :
    MirrorsAt L session state false like r p :=
  Likeness.Goes.from_later mirrors (.refl _) (absurd · Bool.false_ne_true)

/-- One after the other, where what follows may go by how far the first one got. -/
theorem bindOn (start : MirrorsAt L session state first like r p)
    (later : ∀ a b, like a b → ∀ after reached, L.Meets after reached → session.Extends after →
      (first = true → session.position < after.position) →
      MirrorsAt L after reached second alike (f a) (g b)) :
    MirrorsAt L session state (first || second) alike (r >>= f) (p >>= g) := by
  unfold MirrorsAt at start ⊢
  show L.Goes _ _ _ (Routine.bind r f session) (Parser.bind p g session.context state)
  unfold Routine.bind Parser.bind
  match outcome : r session, reply : p session.context state with
  | .exhausted, .exhausted => trivial
  | .answered (.ok a) after, .done b reached =>
    rw [outcome, reply] at start
    obtain ⟨same, meets, extended, read⟩ := start
    have goes := later a b same after reached meets extended read
    rw [MirrorsAt, extended.context] at goes
    refine goes.from_later extended fun required => ?_
    cases first with
    | true => exact .inr (read rfl)
    | false => exact .inl required
  | .answered (.error e) after, .failed error stopped =>
    rw [outcome, reply] at start
    exact start
  | .answered (.ok _) _, .failed _ _ | .answered (.error _) _, .done _ _ | .exhausted, .done _ _
  | .exhausted, .failed _ _ | .answered (.ok _) _, .exhausted | .answered (.error _) _, .exhausted =>
    rw [outcome, reply] at start
    exact start.elim

/-- A token is read when one of the two reads one. -/
theorem bind (start : MirrorsAt L session state first like r p)
    (later : ∀ a b, like a b → MirrorsBy L second alike (f a) (g b)) :
    MirrorsAt L session state (first || second) alike (r >>= f) (p >>= g) :=
  start.bindOn fun a b same after reached meets _ _ => later a b same after reached meets

theorem here {f : State → Routine α} {g : State → Parser α}
    (known : MirrorsAt L session state moves like (f session.state) (g state)) :
    MirrorsAt L session state moves like (Parser.here >>= f) (Parser.here >>= g) :=
  known

/-- A parser that only looks at the place, and what both find there. -/
theorem lookThen {a b : α} (left : r session = .answered (.ok a) session)
    (right : p session.context state = .done b state)
    (later : MirrorsAt L session state moves alike (f a) (g b)) :
    MirrorsAt L session state moves alike (r >>= f) (p >>= g) := by
  show L.Goes _ _ _ (Routine.bind r f session) (Parser.bind p g session.context state)
  unfold Routine.bind Parser.bind
  rw [left, right]
  exact later

/-- The current token is not the end token and is read. -/
theorem advance (meets : L.Meets session state) (inside : state.atEnd = false) :
    MirrorsAt L session state true (Same L.detail · ·) Parser.advance Parser.advance :=
  ⟨.refl _, meets.advance.1, meets.advance.2.1, fun _ => meets.advance.2.2 inside⟩

end MirrorsAt

namespace MirrorsBy

variable {L : Likeness} {moves first second : Bool} {like : α → α → Prop} {alike : β → β → Prop}
  {r : Routine α} {p : Parser α} {f : α → Routine β} {g : α → Parser β}

theorem bind (start : MirrorsBy L first like r p)
    (later : ∀ a b, like a b → MirrorsBy L second alike (f a) (g b)) :
    MirrorsBy L (first || second) alike (r >>= f) (p >>= g) :=
  fun session state meets => (start session state meets).bind later

theorem andThen (start : MirrorsBy L false like r p)
    (later : ∀ a b, like a b → MirrorsBy L moves alike (f a) (g b)) :
    MirrorsBy L moves alike (r >>= f) (p >>= g) :=
  start.bind later

theorem weaken (mirrors : MirrorsBy L moves like r p) : MirrorsBy L false like r p :=
  fun session state meets => (mirrors session state meets).weaken

theorem pure {a b : α} (same : like a b) :
    MirrorsBy L false like (Pure.pure a) (Pure.pure b) :=
  fun session _ meets => ⟨same, meets, .refl session, (absurd · Bool.false_ne_true)⟩

theorem map {f g : α → β} (mirrors : MirrorsBy L moves like r p)
    (kept : ∀ a b, like a b → alike (f a) (g b)) :
    MirrorsBy L moves alike (f <$> r) (g <$> p) := by
  have goes := mirrors.bind (f := fun a => Pure.pure (f a)) (g := fun b => Pure.pure (g b))
    fun a b same => pure (kept a b same)
  rw [Bool.or_false] at goes
  exact goes

theorem failWith {a b : SyntaxError} (reports : L.Reports a b) :
    MirrorsBy L moves like (Parser.failWith a) (Parser.failWith b) :=
  fun session _ meets => ⟨reports, meets, .refl session⟩

theorem fail (expected : Expectation) :
    MirrorsBy L moves like (Parser.fail expected) (Parser.fail expected) :=
  fun session _ meets => ⟨meets.error expected, meets, .refl session⟩

/-- A routine and a parser that go by the place where they meet. -/
theorem byPlace {f : State → Routine α} {g : State → Parser α}
    (each : ∀ session state, L.Meets session state →
      MirrorsAt L session state moves like (f session.state) (g state)) :
    MirrorsBy L moves like (Parser.here >>= f) (Parser.here >>= g) :=
  each

theorem bySight {f : State → Routine α} {g : State → Parser α}
    (each : ∀ a b, L.Sees a b → MirrorsBy L moves like (f a) (g b)) :
    MirrorsBy L moves like (Parser.here >>= f) (Parser.here >>= g) :=
  fun session state meets => each session.state state meets.sees session state meets

theorem byContext {f : Context → Routine α} {g : Context → Parser α}
    (each : ∀ context, MirrorsBy L moves like (f context) (g context)) :
    MirrorsBy L moves like (Parser.context >>= f) (Parser.context >>= g) :=
  fun session state meets => each session.context session state meets

theorem advance :
    MirrorsBy L false (fun _ _ => True) (Parser.advance : Routine Unit) Parser.advance :=
  fun _ _ meets => ⟨trivial, meets.advance.1, meets.advance.2.1, (absurd · Bool.false_ne_true)⟩

/-- A token is stepped over by both if both see that it passes. -/
theorem acceptIf {passes : State → Bool}
    (seen : ∀ first second, L.Sees first second → passes first = passes second) :
    MirrorsBy L false (· = ·) (Parser.acceptIf passes) (Parser.acceptIf passes) := by
  intro session state meets
  show L.Goes _ _ _ (if passes session.state then .answered (.ok true) session.advance
    else .answered (.ok false) session) (if passes state then .done true state.next
    else .done false state)
  rw [seen _ _ meets.sees]
  split
  · exact ⟨rfl, meets.advance.1, meets.advance.2.1, (absurd · Bool.false_ne_true)⟩
  · exact ⟨rfl, meets, .refl _, (absurd · Bool.false_ne_true)⟩

/-- Where a token is stepped over, one has been read. -/
theorem acceptBranch {passes : State → Bool} {yes no : Routine α} {yes' no' : Parser α}
    (seen : ∀ first second, L.Sees first second → passes first = passes second)
    (inside : ∀ state, passes state = true → state.atEnd = false)
    (there : MirrorsBy L false like yes yes') (missing : MirrorsBy L true like no no') :
    MirrorsBy L true like
      (Parser.acceptIf passes >>= fun found => if found = true then yes else no)
      (Parser.acceptIf passes >>= fun found => if found = true then yes' else no') := by
  intro session state meets
  show L.Goes _ _ _ (Routine.bind (Parser.acceptIf passes) _ session)
    (Parser.bind (Parser.acceptIf passes) _ session.context state)
  unfold Routine.bind Parser.bind
  rw [Parser.acceptIf_apply, Routine.acceptIf_apply, seen _ _ meets.sees]
  by_cases passed : passes state = true
  · obtain ⟨again, extended, read⟩ := meets.advance
    have goes := there session.advance state.next again
    rw [MirrorsAt, extended.context] at goes
    rw [if_pos passed, if_pos passed]
    exact goes.from_later extended fun _ => .inr (read (inside state passed))
  · rw [if_neg passed, if_neg passed]
    exact missing session state meets

theorem declareType (ident : String) :
    MirrorsBy L false (fun _ _ => True) (Parser.declareType ident : Routine Unit)
      (Parser.declareType ident) := by
  intro session state meets
  obtain ⟨again, extended⟩ := meets.declare ident
  unfold MirrorsAt
  rw [Parser.declareType_apply]
  split
  · rename_i known
    rw [if_pos known] at again
    exact ⟨trivial, again, extended, (absurd · Bool.false_ne_true)⟩
  · rename_i known
    rw [if_neg known] at again
    exact ⟨trivial, again, extended, (absurd · Bool.false_ne_true)⟩

/-- The results of tentative runs are alike. -/
def Tried (L : Likeness) (like : α → α → Prop) : Except SyntaxError α → Except SyntaxError α → Prop
  | .ok first, .ok second => like first second
  | .error first, .error second => L.Reports first second
  | _, _ => False

/-- A session that has only been extended keeps what a tentative run restores. -/
private theorem restored {session after : Session} (extended : session.Extends after) :
    { after with inTemplateArguments := session.inTemplateArguments } = after := by
  rw [← extended.inTemplateArguments]

theorem speculate (mirrors : MirrorsBy L moves like r p) :
    MirrorsBy L false (Tried L like) (Parser.speculate r) (Parser.speculate p) := by
  intro session state meets
  have goes := mirrors session state meets
  unfold MirrorsAt at goes ⊢
  rw [Parser.speculate_apply]
  show L.Goes _ _ _ (Routine.tentative r session) _
  unfold Routine.tentative
  match outcome : r session, reply : p session.context state with
  | .exhausted, .exhausted => trivial
  | .answered (.ok a) after, .done b reached =>
    rw [outcome, reply] at goes
    obtain ⟨same, again, extended, _⟩ := goes
    simp only [restored extended]
    exact ⟨same, again, extended, (absurd · Bool.false_ne_true)⟩
  | .answered (.error e) after, .failed error stopped =>
    rw [outcome, reply] at goes
    obtain ⟨reports, again, extended⟩ := goes
    simp only [extended.rollBack]
    exact ⟨reports, meets, .refl _, (absurd · Bool.false_ne_true)⟩
  | .answered (.ok _) _, .failed _ _ | .answered (.error _) _, .done _ _ | .exhausted, .done _ _
  | .exhausted, .failed _ _ | .answered (.ok _) _, .exhausted | .answered (.error _) _, .exhausted =>
    rw [outcome, reply] at goes
    exact goes.elim

/-- Optional values are alike: both missing, or both there and alike. -/
def Both (like : α → α → Prop) : Option α → Option α → Prop
  | some first, some second => like first second
  | none, none => True
  | _, _ => False

theorem attempt (mirrors : MirrorsBy L moves like r p) :
    MirrorsBy L false (Both like) (Parser.attempt r) (Parser.attempt p) := by
  have same : Parser.attempt p = Except.toOption <$> Parser.speculate p := by
    funext context state
    rw [Parser.attempt_apply]
    show _ = Parser.bind (Parser.speculate p) _ context state
    rw [Parser.bind, Parser.speculate_apply]
    cases p context state <;> rfl
  rw [same]
  refine mirrors.speculate.map fun first second tried => ?_
  match first, second, tried with
  | .ok _, .ok _, tried => exact tried
  | .error _, .error _, _ => trivial

theorem lookahead (mirrors : MirrorsBy L moves like r p) :
    MirrorsBy L false (Both like) (Parser.lookahead r) (Parser.lookahead p) := by
  intro session state meets
  have goes := mirrors session state meets
  unfold MirrorsAt at goes ⊢
  rw [Parser.lookahead_apply, Routine.lookahead_apply]
  match outcome : r session, reply : p session.context state with
  | .exhausted, .exhausted => trivial
  | .answered (.ok a) after, .done b reached =>
    rw [outcome, reply] at goes
    obtain ⟨same, _, extended, _⟩ := goes
    simp only [extended.rollBack]
    exact ⟨same, meets, .refl _, (absurd · Bool.false_ne_true)⟩
  | .answered (.error e) after, .failed error stopped =>
    rw [outcome, reply] at goes
    obtain ⟨_, _, extended⟩ := goes
    simp only [extended.rollBack]
    exact ⟨trivial, meets, .refl _, (absurd · Bool.false_ne_true)⟩
  | .answered (.ok _) _, .failed _ _ | .answered (.error _) _, .done _ _ | .exhausted, .done _ _
  | .exhausted, .failed _ _ | .answered (.ok _) _, .exhausted | .answered (.error _) _, .exhausted =>
    rw [outcome, reply] at goes
    exact goes.elim

/-- A run with other surroundings, which are as before behind it. -/
private theorem surrounded {enter : Session → Session} {leave : Session → Session → Session}
    {change : Context → Context} (mirrors : MirrorsBy L moves like r p)
    (entered : ∀ session, (enter session).context = change session.context ∧
      (enter session).tokens = session.tokens ∧ (enter session).position = session.position ∧
      (enter session).known = session.known)
    (left : ∀ session after, (enter session).Extends after →
      session.Extends (leave session after) ∧ (leave session after).tokens = after.tokens ∧
      (leave session after).position = after.position ∧ (leave session after).known = after.known) :
    MirrorsBy L moves like (Routine.surrounded enter leave r) (Parser.surrounded change p) := by
  intro session state meets
  obtain ⟨context, tokens, position, known⟩ := entered session
  have goes := mirrors _ _ (meets.surrounded tokens position known)
  unfold MirrorsAt at goes ⊢
  rw [context] at goes
  unfold Routine.surrounded Parser.surrounded
  match outcome : r (enter session), reply : p (change session.context) state with
  | .exhausted, .exhausted => trivial
  | .answered (.ok a) after, .done b reached =>
    rw [outcome, reply] at goes
    obtain ⟨same, again, extended, read⟩ := goes
    obtain ⟨back, tokens, position', known⟩ := left session after extended
    refine ⟨same, again.surrounded tokens position' known, back, fun required => ?_⟩
    rw [position', ← position]
    exact read required
  | .answered (.error e) after, .failed error stopped =>
    rw [outcome, reply] at goes
    obtain ⟨reports, again, extended⟩ := goes
    obtain ⟨back, tokens, position', known⟩ := left session after extended
    exact ⟨reports, again.surrounded tokens position' known, back⟩
  | .answered (.ok _) _, .failed _ _ | .answered (.error _) _, .done _ _ | .exhausted, .done _ _
  | .exhausted, .failed _ _ | .answered (.ok _) _, .exhausted | .answered (.error _) _, .exhausted =>
    rw [outcome, reply] at goes
    exact goes.elim

theorem angleCloses (closes : Bool) (mirrors : MirrorsBy L moves like r p) :
    MirrorsBy L moves like (Parser.angleCloses closes r) (Parser.angleCloses closes p) :=
  surrounded mirrors (fun _ => ⟨rfl, rfl, rfl, rfl⟩) fun _ _ extended =>
    ⟨⟨extended.tokens, extended.position, extended.names, extended.classes, rfl, extended.depth⟩,
      rfl, rfl, rfl⟩

theorem insideClass (ident : String) (mirrors : MirrorsBy L moves like r p) :
    MirrorsBy L moves like (Parser.insideClass ident r) (Parser.insideClass ident p) :=
  surrounded mirrors
    (fun session => ⟨by simp [Session.context], rfl, rfl, rfl⟩) fun _ _ extended =>
    ⟨⟨extended.tokens, extended.position, extended.names, by simp [extended.classes],
      extended.inTemplateArguments, extended.depth⟩, rfl, rfl, rfl⟩

theorem deeper (mirrors : MirrorsBy L moves like r p) :
    MirrorsBy L moves like (Parser.deeper r) (Parser.deeper p) :=
  surrounded mirrors (fun _ => ⟨rfl, rfl, rfl, rfl⟩) fun _ _ extended =>
    ⟨⟨extended.tokens, extended.position, extended.names, extended.classes,
      extended.inTemplateArguments, by simp [extended.depth]⟩, rfl, rfl, rfl⟩

theorem nested (mirrors : MirrorsBy L moves like r p) :
    MirrorsBy L moves like (Parser.nested r) (Parser.nested p) := by
  refine byContext fun context => ?_
  split
  · exact fail _
  · exact mirrors.deeper

/-- The results of a step are alike: both go on with alike values, or both end with alike results. -/
def Either (like : α → α → Prop) (alike : β → β → Prop) : α ⊕ β → α ⊕ β → Prop
  | .inl first, .inl second => like first second
  | .inr first, .inr second => alike first second
  | _, _ => False

theorem iterate {step : α → Routine (α ⊕ β)} {step' : α → Parser (α ⊕ β)}
    (steps : ∀ a b, like a b → MirrorsBy L false (Either like alike) (step a) (step' b)) :
    ∀ (fuel : Nat) (a b : α), like a b →
      MirrorsBy L false alike (Parser.iterate step fuel a) (Parser.iterate step' fuel b) := by
  intro fuel
  induction fuel with
  | zero => exact fun _ _ _ _ _ _ => trivial
  | succ fuel ih =>
    intro a b same
    refine (steps a b same).andThen fun first second goesOn => ?_
    match first, second, goesOn with
    | .inl first, .inl second, goesOn => exact ih first second goesOn
    | .inr first, .inr second, ends => exact .pure ends

end MirrorsBy

end CppSyntax
