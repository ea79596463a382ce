import CppSyntax.Proofs.Lexing.Layout
import CppSyntax.Proofs.Parsing.Place

/-!
What a parser answers before known tokens. An answer is promised only as far as the nesting limit
allows: below the limit the parser gives it, beyond the limit it may fail, and in no case does it give
another one. Whether the fuel lasts is a question of its own and left open here.
-/

namespace CppSyntax

/-- The reply is a value that meets the condition, or no value at all if none is sure to come. -/
def Reply.Gives (sure : Prop) (post : α → State → Prop) : Reply α → Prop
  | .done value state => post value state
  | .failed _ _ => ¬ sure
  | .exhausted => True

theorem Reply.Gives.mono {sure : Prop} {reply : Reply α} {post other : α → State → Prop}
    (gives : reply.Gives sure post)
    (weaker : ∀ value state, post value state → other value state) : reply.Gives sure other := by
  cases reply with
  | done value state => exact weaker value state gives
  | failed => exact gives
  | exhausted => exact gives

/-- What the rules see of the tokens from the current one on. -/
def State.glyphs (state : State) : List Glyph := state.tokens.map Token.glyph

/-- Before the given tokens the parser reads a good value and stops before the rest. -/
def Parser.Reads (p : Parser α) (context : Context) (sure : Prop) (glyphs : List Glyph)
    (good : α → Prop) (rest : List Glyph) : Prop :=
  ∀ state : State, state.glyphs = glyphs → (p context state).Gives sure fun value reached =>
    good value ∧ reached.glyphs = rest ∧ state.Reaches reached

/-- Before the given tokens the parser gives no value. -/
def Parser.Refuses (p : Parser α) (context : Context) (glyphs : List Glyph) : Prop :=
  p.Reads context False glyphs (fun _ => False) []

namespace State

variable {state : State} {first second : Glyph} {rest : List Glyph}

theorem kind_of_glyphs (known : state.glyphs = first :: rest) : state.kind = first.kind := by
  cases known
  rfl

theorem joint_of_glyphs (known : state.glyphs = first :: rest) :
    state.current.joint = first.joint := by
  cases known
  rfl

theorem following_of_glyphs (known : state.glyphs = first :: rest) :
    state.following.map Token.glyph = rest := by
  cases known
  rfl

theorem glyphs_next (known : state.glyphs = first :: rest) (more : rest ≠ [])
    (inside : first.kind ≠ .endOfFile) : state.next.glyphs = rest := by
  have notEnd : state.atEnd = false := inside_of_kind (kind_of_glyphs known) inside
  have behind := following_of_glyphs known
  cases following : state.following with
  | nil =>
    rw [following] at behind
    exact absurd behind.symm more
  | cons token tokens =>
    rw [following] at behind
    rw [next_of_following notEnd following]
    exact behind

theorem ahead_one_of_glyphs (known : state.glyphs = first :: second :: rest) :
    state.ahead 1 = second.kind := by
  have behind := following_of_glyphs known
  cases following : state.following with
  | nil =>
    rw [following] at behind
    cases behind
  | cons token tokens =>
    rw [following] at behind
    cases behind
    simp [ahead, following, Token.glyph]

theorem isAt_of_glyphs (known : state.glyphs = first :: rest) (mark : Punctuator) :
    state.isAt mark = (first.kind == .punctuator mark) := by
  rw [State.isAt, kind_of_glyphs known]

theorem isAtWord_of_glyphs (known : state.glyphs = first :: rest) (word : Keyword) :
    state.isAtWord word = (first.kind == .keyword word) := by
  rw [isAtWord, kind_of_glyphs known]

end State

theorem Parser.expect_apply {mark : Punctuator} {purpose : String} {context : Context} {state : State}
    (isAt : state.isAt mark = true) :
    (expect mark purpose : Parser Unit) context state = .done () state.next := by
  show Parser.bind (accept mark) _ context state = _
  rw [Parser.bind, accept, acceptIf_apply, isAt]
  rfl

namespace Parser.Reads

variable {sure : Prop} {context : Context} {glyphs middle rest : List Glyph} {first : Glyph}
  {p : Parser α} {f : α → Parser β} {good : α → Prop} {fine : β → Prop}

theorem mono {better : α → Prop} (reads : p.Reads context sure glyphs good rest)
    (weaker : ∀ value, good value → better value) : p.Reads context sure glyphs better rest :=
  fun state known => (reads state known).mono fun value _ reached =>
    ⟨weaker value reached.1, reached.2⟩

theorem unsure {certain : Prop} (reads : p.Reads context sure glyphs good rest)
    (weaker : certain → sure) : p.Reads context certain glyphs good rest := by
  intro state known
  have gives := reads state known
  cases reply : p context state with
  | done value reached =>
    rw [reply] at gives
    exact gives
  | failed =>
    rw [reply] at gives
    exact fun is => gives (weaker is)
  | exhausted => trivial

theorem pure {value : α} (isGood : good value) :
    (Pure.pure value : Parser α).Reads context sure rest good rest :=
  fun _ known => ⟨isGood, known, .refl⟩

theorem bind (reads : p.Reads context sure glyphs good middle)
    (later : ∀ value, good value → (f value).Reads context sure middle fine rest) :
    (p >>= f).Reads context sure glyphs fine rest := by
  intro state known
  have gives := reads state known
  show (Parser.bind p f context state).Gives sure _
  unfold Parser.bind
  cases reply : p context state with
  | done value reached =>
    rw [reply] at gives
    obtain ⟨isGood, behind, reaches⟩ := gives
    exact (later value isGood reached behind).mono fun _ _ final =>
      ⟨final.1, final.2.1, reaches.trans final.2.2⟩
  | failed error stopped =>
    rw [reply] at gives
    exact gives
  | exhausted => trivial

/-- A value that is known beforehand. -/
theorem andThen {value : α} (reads : p.Reads context sure glyphs (· = value) middle)
    (later : (f value).Reads context sure middle fine rest) :
    (p >>= f).Reads context sure glyphs fine rest :=
  reads.bind fun _ same => same ▸ later

theorem byPlace {g : State → Parser α}
    (each : ∀ state : State, state.glyphs = glyphs → (g state).Reads context sure glyphs good rest) :
    (here >>= g).Reads context sure glyphs good rest :=
  fun state known => each state known state known

theorem byContext {g : Context → Parser α}
    (known : (g context).Reads context sure glyphs good rest) :
    (Parser.context >>= g : Parser _).Reads context sure glyphs good rest :=
  known

theorem angleCloses {closes : Bool}
    (reads : p.Reads { context with inTemplateArguments := closes } sure glyphs good rest) :
    (Parser.angleCloses closes p : Parser _).Reads context sure glyphs good rest :=
  reads

theorem nested (allowed : sure → context.depth < nestingLimit)
    (reads : p.Reads { context with depth := context.depth + 1 } sure glyphs good rest) :
    (Parser.nested p : Parser _).Reads context sure glyphs good rest := by
  intro state known
  show ((if nestingLimit ≤ context.depth then fail (.phrase "nesting depth limit")
    else deeper p : Parser α)
      context state).Gives sure _
  split
  · rename_i reached
    exact fun certain => absurd (allowed certain) (Nat.not_lt.mpr reached)
  · exact reads state known

theorem advance (more : rest ≠ []) (inside : first.kind ≠ .endOfFile) :
    (Parser.advance : Parser _).Reads context sure (first :: rest) (fun _ => True) rest :=
  fun _ known => ⟨trivial, State.glyphs_next known more inside, .next .refl⟩

theorem advanceBy (more : rest ≠ [])
    (inside : ∀ glyph ∈ glyphs, glyph.kind ≠ .endOfFile) :
    (Parser.advanceBy glyphs.length : Parser _).Reads context sure (glyphs ++ rest) (fun _ => True) rest := by
  induction glyphs with
  | nil => exact .pure trivial
  | cons glyph glyphs ih =>
    refine (advance ?_ (inside glyph (List.mem_cons_self ..))).bind fun _ _ => ?_
    · simp [more]
    · exact ih fun other member => inside other (List.mem_cons_of_mem _ member)

theorem accept {mark : Punctuator} (more : rest ≠ []) (there : first.kind = .punctuator mark) :
    (Parser.accept mark : Parser _).Reads context sure (first :: rest) (· = true) rest := by
  intro state known
  have isAt : state.isAt mark = true := by simp [State.isAt_of_glyphs known, there]
  show Reply.Gives sure _ (if state.isAt mark then Reply.done true state.next else .done false state)
  rw [if_pos isAt]
  exact ⟨rfl, State.glyphs_next known more (by simp [there]), .next .refl⟩

theorem missing {mark : Punctuator} (other : first.kind ≠ .punctuator mark) :
    (Parser.accept mark : Parser _).Reads context sure (first :: rest) (· = false) (first :: rest) := by
  intro state known
  have isAt : state.isAt mark = false := by simp [State.isAt_of_glyphs known, other]
  show Reply.Gives sure _ (if state.isAt mark then Reply.done true state.next else .done false state)
  rw [isAt]
  exact ⟨rfl, known, .refl⟩

theorem acceptWord {word : Keyword} (more : rest ≠ []) (there : first.kind = .keyword word) :
    (Parser.acceptWord word : Parser _).Reads context sure (first :: rest) (· = true) rest := by
  intro state known
  have isAt : state.isAtWord word = true := by simp [State.isAtWord_of_glyphs known, there]
  show Reply.Gives sure _
    (if state.isAtWord word then Reply.done true state.next else .done false state)
  rw [if_pos isAt]
  exact ⟨rfl, State.glyphs_next known more (by simp [there]), .next .refl⟩

theorem missingWord {word : Keyword} (other : first.kind ≠ .keyword word) :
    (Parser.acceptWord word : Parser _).Reads context sure (first :: rest) (· = false) (first :: rest) := by
  intro state known
  have isAt : state.isAtWord word = false := by simp [State.isAtWord_of_glyphs known, other]
  show Reply.Gives sure _
    (if state.isAtWord word then Reply.done true state.next else .done false state)
  rw [isAt]
  exact ⟨rfl, known, .refl⟩

theorem missingIdent {ident : String} (other : first.kind ≠ .identifier ident) :
    (Parser.acceptIdent ident : Parser _).Reads context sure (first :: rest) (· = false) (first :: rest) := by
  intro state known
  have isAt : state.isAtIdent ident = false := by
    rw [State.isAtIdent, State.kind_of_glyphs known]
    simpa using other
  show Reply.Gives sure _
    (if state.isAtIdent ident then Reply.done true state.next else .done false state)
  rw [isAt]
  exact ⟨rfl, known, .refl⟩

theorem expect {mark : Punctuator} {purpose : String} (more : rest ≠ [])
    (there : first.kind = .punctuator mark) :
    (Parser.expect mark purpose : Parser _).Reads context sure (first :: rest) (fun _ => True) rest :=
  (accept more there).andThen (.pure trivial)

theorem expectWord {word : Keyword} {purpose : String} (more : rest ≠ [])
    (there : first.kind = .keyword word) :
    (Parser.expectWord word purpose : Parser _).Reads context sure (first :: rest) (fun _ => True) rest :=
  (acceptWord more there).andThen (.pure trivial)

theorem optionalIdentifier {ident : String} (more : rest ≠ [])
    (there : first.kind = .identifier ident) :
    (Parser.optionalIdentifier : Parser _).Reads context sure (first :: rest) (· = some ident) rest := by
  refine byPlace fun state known => ?_
  rw [State.kind_of_glyphs known, there]
  exact (advance more (by simp [there])).bind fun _ _ => .pure rfl

theorem expectIdentifier {ident purpose : String} (more : rest ≠ [])
    (there : first.kind = .identifier ident) :
    (Parser.expectIdentifier purpose : Parser _).Reads context sure (first :: rest) (· = ident) rest :=
  (optionalIdentifier more there).andThen (.pure rfl)

theorem declareType (ident : String) :
    (Parser.declareType ident : Parser _).Reads context sure glyphs (fun _ => True) glyphs := by
  intro state known
  rw [Parser.declareType_apply]
  split
  · exact ⟨trivial, known, .refl⟩
  · exact ⟨trivial, known, .declare ident .refl⟩

theorem of_refuses (refuses : p.Refuses context glyphs) (never : ¬ sure) :
    p.Reads context sure glyphs good rest := by
  intro state known
  have gives := refuses state known
  cases reply : p context state with
  | done value reached =>
    rw [reply] at gives
    exact gives.1.elim
  | failed => exact never
  | exhausted => trivial

/-- An attempt that beyond the limit leaves its place to what follows. -/
theorem attempt {f : Option α → Parser β} (reads : p.Reads context sure glyphs good middle)
    (found : ∀ value, good value → (f (some value)).Reads context sure middle fine rest)
    (missed : ¬ sure → (f none).Reads context sure glyphs fine rest) :
    (Parser.attempt p >>= f : Parser _).Reads context sure glyphs fine rest := by
  intro state known
  have gives := reads state known
  show (Parser.bind (Parser.attempt p) f context state).Gives sure _
  unfold Parser.bind
  rw [Parser.attempt_apply]
  cases reply : p context state with
  | done value reached =>
    rw [reply] at gives
    obtain ⟨isGood, behind, reaches⟩ := gives
    exact (found value isGood reached behind).mono fun _ _ final =>
      ⟨final.1, final.2.1, reaches.trans final.2.2⟩
  | failed error stopped =>
    rw [reply] at gives
    exact missed gives state known
  | exhausted => trivial

/-- A lookahead leaves its place to what follows, whatever it finds. -/
theorem lookahead {f : Option α → Parser β} (reads : p.Reads context sure glyphs good middle)
    (found : ∀ value, good value → (f (some value)).Reads context sure glyphs fine rest)
    (missed : ¬ sure → (f none).Reads context sure glyphs fine rest) :
    (Parser.lookahead p >>= f : Parser _).Reads context sure glyphs fine rest := by
  intro state known
  have gives := reads state known
  show (Parser.bind (Parser.lookahead p) f context state).Gives sure _
  unfold Parser.bind
  rw [Parser.lookahead_apply]
  cases reply : p context state with
  | done value reached =>
    rw [reply] at gives
    exact found value gives.1 state known
  | failed error stopped =>
    rw [reply] at gives
    exact missed gives state known
  | exhausted => trivial

theorem attemptNone {f : Option α → Parser β} (refuses : p.Refuses context glyphs)
    (missed : (f none).Reads context sure glyphs fine rest) :
    (Parser.attempt p >>= f : Parser _).Reads context sure glyphs fine rest := by
  intro state known
  have gives := refuses state known
  show (Parser.bind (Parser.attempt p) f context state).Gives sure _
  unfold Parser.bind
  rw [Parser.attempt_apply]
  cases reply : p context state with
  | done value reached =>
    rw [reply] at gives
    exact gives.1.elim
  | failed error stopped => exact missed state known
  | exhausted => trivial

/-- A reading that is sure to succeed leaves it to what follows whether all of it fails. -/
theorem lasts (reads : p.Reads context True glyphs good middle)
    (later : ∀ value state, state.glyphs = middle → ((f value) context state).Gives True fun _ _ => True)
    {state : State} (known : state.glyphs = glyphs) :
    ((p >>= f) context state).Gives True fun _ _ => True := by
  have gives := reads state known
  show (Parser.bind p f context state).Gives True _
  unfold Parser.bind
  cases reply : p context state with
  | done value reached =>
    rw [reply] at gives
    exact later value reached gives.2.1
  | failed error stopped =>
    rw [reply] at gives
    exact gives
  | exhausted => trivial

theorem againAny {step : α → Parser (α ⊕ β)} {start : α} {through : α → Prop}
    (one : (step start).Reads context sure glyphs
      (fun result => ∃ next, result = .inl next ∧ through next) middle)
    (later : ∀ next, through next → ∀ fuel,
      (iterate step fuel next).Reads context sure middle fine rest) (fuel : Nat) :
    (iterate step fuel start).Reads context sure glyphs fine rest := by
  cases fuel with
  | zero => exact fun _ _ => trivial
  | succ fuel =>
    refine one.bind fun result known => ?_
    obtain ⟨next, rfl, isThrough⟩ := known
    exact later next isThrough fuel

theorem again {step : α → Parser (α ⊕ β)} {start next : α}
    (one : (step start).Reads context sure glyphs (· = .inl next) middle)
    (later : ∀ fuel, (iterate step fuel next).Reads context sure middle fine rest) (fuel : Nat) :
    (iterate step fuel start).Reads context sure glyphs fine rest :=
  againAny (one.mono fun _ same => ⟨next, same, rfl⟩) (fun _ same => same ▸ later) fuel

theorem stop {step : α → Parser (α ⊕ β)} {start : α} {result : β}
    (one : (step start).Reads context sure glyphs (· = .inr result) rest) (isGood : fine result)
    (fuel : Nat) : (iterate step fuel start).Reads context sure glyphs fine rest := by
  cases fuel with
  | zero => exact fun _ _ => trivial
  | succ fuel => exact one.andThen (.pure isGood)

/-- A loop that ends with a known result. -/
theorem stopWith {step : α → Parser (α ⊕ β)} {start : α} {result : β}
    (one : (step start).Reads context sure glyphs (· = .inr result) rest) (fuel : Nat) :
    (iterate step fuel start).Reads context sure glyphs (· = result) rest := by
  refine stop one ?_ fuel
  rfl

end Parser.Reads

namespace Parser.Refuses

variable {sure : Prop} {context : Context} {glyphs middle : List Glyph} {p : Parser α}
  {f : α → Parser β} {good : α → Prop}

theorem fail (expected : Expectation) : (Parser.fail expected : Parser α).Refuses context glyphs :=
  fun _ _ => id

theorem bind (refuses : p.Refuses context glyphs) : (p >>= f).Refuses context glyphs :=
  Reads.bind refuses fun _ impossible => impossible.elim

theorem nested (deep : nestingLimit ≤ context.depth) : (Parser.nested p : Parser _).Refuses context glyphs := by
  intro state known
  show ((if nestingLimit ≤ context.depth then Parser.fail (.phrase "nesting depth limit")
    else deeper p : Parser α)
      context state).Gives False _
  rw [if_pos deep]
  exact id

/-- What follows refuses what the first part leaves. -/
theorem behind (reads : p.Reads context False glyphs good middle)
    (later : ∀ value, good value → (f value).Refuses context middle) :
    (p >>= f).Refuses context glyphs :=
  Reads.bind reads later

end Parser.Refuses

/-- The rules of the grammar call each other through a derivation. -/
def Grammar.IsDerived (g : Grammar Parser) : Prop := ∃ fuel depth, g = ⟨fuel, derive fuel depth⟩

theorem Grammar.IsDerived.symbol {g : Grammar Parser} (derived : g.IsDerived) (symbol : Symbol)
    {context : Context} {sure : Prop} {glyphs rest : List Glyph} {good : symbol.Value → Prop}
    (rule : ∀ inner : Grammar Parser, inner.IsDerived →
      (inner.rule symbol).Reads context sure glyphs good rest) :
    (g.parse symbol).Reads context sure glyphs good rest := by
  obtain ⟨fuel, depth, rfl⟩ := derived
  cases depth with
  | zero => exact fun _ _ => trivial
  | succ depth => exact rule ⟨fuel, derive fuel depth⟩ ⟨fuel, depth, rfl⟩

end CppSyntax
