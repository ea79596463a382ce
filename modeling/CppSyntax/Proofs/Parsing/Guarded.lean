import CppSyntax.Proofs.Parsing.Outcome

/-!
Reading at places of which more is known than the tokens ahead. What is known holds of every place
that can be reached from there, so that it need not be proved again behind every part that is read.
-/

namespace CppSyntax

/-- What holds of a place holds of all places behind it. -/
structure Steady (holds : State → Prop) : Prop where
  kept {before after : State} : before.Reaches after → holds before → holds after

namespace State

/-- No comment belongs to the token before the place or to one behind it. -/
structure Quiet (state : State) : Prop where
  before : ∀ token ∈ state.previous, token.trailingComment = none
  behind : ∀ token ∈ state.tokens, token.IsQuiet

theorem Quiet.next {state : State} (quiet : state.Quiet) : state.next.Quiet := by
  cases inside : state.atEnd with
  | true => rwa [next_of_atEnd inside]
  | false =>
    cases following : state.following with
    | nil =>
      have same : state.next = state := by simp [State.next, following]
      rwa [same]
    | cons token rest =>
      have behind := quiet.behind
      rw [tokens, following] at behind
      rw [next_of_following inside following]
      refine ⟨?_, fun other member => behind other (List.mem_cons_of_mem _ member)⟩
      rintro _ ⟨⟩
      exact (behind state.current (List.mem_cons_self ..)).2

theorem Quiet.start {tokens : List Token} {typeNames : List String}
    (quiet : ∀ token ∈ tokens, token.IsQuiet) (nonempty : tokens ≠ []) :
    (State.start typeNames tokens).Quiet := by
  cases tokens with
  | nil => exact absurd rfl nonempty
  | cons first following => exact ⟨by simp [State.start], quiet⟩

theorem Quiet.steady : Steady Quiet := by
  refine ⟨fun reaches quiet => ?_⟩
  induction reaches with
  | refl => exact quiet
  | next _ ih => exact ih.next
  | declare ident _ ih => exact ⟨ih.before, ih.behind⟩

end State

/-- At places with the given knowledge the parser reads a good value and keeps the knowledge. -/
def Parser.ReadsUnder (holds : State → Prop) (p : Parser α) (context : Context) (sure : Prop)
    (glyphs : List Glyph) (good : α → Prop) (rest : List Glyph) : Prop :=
  ∀ state : State, holds state → state.glyphs = glyphs →
    (p context state).Gives sure fun value reached =>
      good value ∧ reached.glyphs = rest ∧ holds reached

namespace Parser.ReadsUnder

variable {holds : State → Prop} {sure : Prop} {context : Context} {glyphs middle rest : List Glyph}
  {p : Parser α} {f : α → Parser β} {good : α → Prop} {fine : β → Prop}

theorem ofReads (steady : Steady holds) (reads : p.Reads context sure glyphs good rest) :
    p.ReadsUnder holds context sure glyphs good rest :=
  fun state known place => (reads state place).mono fun _ _ reached =>
    ⟨reached.1, reached.2.1, steady.kept reached.2.2 known⟩

theorem mono {better : α → Prop} (reads : p.ReadsUnder holds context sure glyphs good rest)
    (weaker : ∀ value, good value → better value) :
    p.ReadsUnder holds context sure glyphs better rest :=
  fun state known place => (reads state known place).mono fun value _ reached =>
    ⟨weaker value reached.1, reached.2⟩

theorem pure {value : α} (isGood : good value) :
    (Pure.pure value : Parser α).ReadsUnder holds context sure rest good rest :=
  fun _ known place => ⟨isGood, place, known⟩

theorem bind (reads : p.ReadsUnder holds context sure glyphs good middle)
    (later : ∀ value, good value → (f value).ReadsUnder holds context sure middle fine rest) :
    (p >>= f).ReadsUnder holds context sure glyphs fine rest := by
  intro state known place
  have gives := reads state known place
  show (Parser.bind p f context state).Gives sure _
  unfold Parser.bind
  cases reply : p context state with
  | done value reached =>
    rw [reply] at gives
    obtain ⟨isGood, behind, kept⟩ := gives
    exact later value isGood reached kept behind
  | failed error stopped =>
    rw [reply] at gives
    exact gives
  | exhausted => trivial

/-- A value that is known beforehand. -/
theorem andThen {value : α} (reads : p.ReadsUnder holds context sure glyphs (· = value) middle)
    (later : (f value).ReadsUnder holds context sure middle fine rest) :
    (p >>= f).ReadsUnder holds context sure glyphs fine rest :=
  reads.bind fun _ same => same ▸ later

theorem byPlace {g : State → Parser α}
    (each : ∀ state : State, holds state → state.glyphs = glyphs →
      (g state).ReadsUnder holds context sure glyphs good rest) :
    (here >>= g).ReadsUnder holds context sure glyphs good rest :=
  fun state known place => each state known place state known place

theorem angleCloses {closes : Bool}
    (reads : p.ReadsUnder holds { context with inTemplateArguments := closes } sure glyphs good
      rest) : (Parser.angleCloses closes p : Parser _).ReadsUnder holds context sure glyphs good rest :=
  reads

theorem insideClass {ident : String}
    (reads : p.ReadsUnder holds { context with classes := ident :: context.classes } sure glyphs good
      rest) : (Parser.insideClass ident p : Parser _).ReadsUnder holds context sure glyphs good rest :=
  reads

theorem nested (allowed : sure → context.depth < nestingLimit)
    (reads : p.ReadsUnder holds { context with depth := context.depth + 1 } sure glyphs good rest) :
    (Parser.nested p : Parser _).ReadsUnder holds context sure glyphs good rest := by
  intro state known place
  show ((if nestingLimit ≤ context.depth then fail (.phrase "nesting depth limit")
    else deeper p : Parser α)
      context state).Gives sure _
  split
  · rename_i reached
    exact fun certain => absurd (allowed certain) (Nat.not_lt.mpr reached)
  · exact reads state known place

theorem again {step : α → Parser (α ⊕ β)} {start : α} (through : α → Prop)
    (one : (step start).ReadsUnder holds context sure glyphs
      (fun result => ∃ next, result = .inl next ∧ through next) middle)
    (later : ∀ next, through next → ∀ fuel,
      (iterate step fuel next).ReadsUnder holds context sure middle fine rest) (fuel : Nat) :
    (iterate step fuel start).ReadsUnder holds context sure glyphs fine rest := by
  cases fuel with
  | zero => exact fun _ _ _ => trivial
  | succ fuel =>
    refine one.bind fun result known => ?_
    obtain ⟨next, rfl, isThrough⟩ := known
    exact later next isThrough fuel

theorem stop {step : α → Parser (α ⊕ β)} {start : α} (result : β)
    (one : (step start).ReadsUnder holds context sure glyphs (· = .inr result) rest)
    (isGood : fine result) (fuel : Nat) :
    (iterate step fuel start).ReadsUnder holds context sure glyphs fine rest := by
  cases fuel with
  | zero => exact fun _ _ _ => trivial
  | succ fuel => exact one.andThen (.pure isGood)

theorem symbol {g : Grammar Parser} (derived : g.IsDerived) (symbol : Symbol)
    {good : symbol.Value → Prop}
    (rule : ∀ inner : Grammar Parser, inner.IsDerived →
      (inner.rule symbol).ReadsUnder holds context sure glyphs good rest) :
    (g.parse symbol).ReadsUnder holds context sure glyphs good rest := by
  obtain ⟨fuel, depth, rfl⟩ := derived
  cases depth with
  | zero => exact fun _ _ _ => trivial
  | succ depth => exact rule ⟨fuel, Grammar.derive fuel depth⟩ ⟨fuel, depth, rfl⟩

end Parser.ReadsUnder

/-- Reading keeps places without comments quiet. -/
theorem Parser.Reads.quietly {p : Parser α} {context : Context} {sure : Prop}
    {glyphs rest : List Glyph} {good : α → Prop} (reads : p.Reads context sure glyphs good rest) :
    p.ReadsUnder State.Quiet context sure glyphs good rest :=
  .ofReads State.Quiet.steady reads

end CppSyntax
