import CppSyntax.Proofs.Parsing.Place

/-!
Parsers that never run out of fuel. Rules call each other without reading a token only from a higher
rank to a lower one, and each repetition of a loop reads a token. A supply is a grammar together with
a budget that pays for both: sixteen units for every token that is left, and the rank of the symbol.
-/

namespace CppSyntax

/-- How many more rules a symbol may call before a token is read. -/
def Symbol.rank : Symbol → Nat
  | .templateParameters => 0
  | .name _ => 1
  | .specifiers _ | .declarator _ => 2
  | .unary => 3
  | .cast => 4
  | .binary _ => 5
  | .assignment => 6
  | .clause => 7
  | .declaration _ => 8
  | .statement => 9

def Never (_ : α) : Prop := False

def Always (_ : α) : Prop := True

def GoesOn (result : α ⊕ β) : Prop := result.isLeft = true

def WasThere (found : Bool) : Prop := found = true

def IsFound (found : Option α) : Prop := found.isSome = true

def IsOk (result : Except ε α) : Prop := result.toBool = true

/-- A symbol of which a value has at least one token. -/
def Symbol.IsSolid : Symbol → Prop
  | .declaration _ | .statement | .name _ => True
  | _ => False

/-- The reply is an answer given at a later place, behind at least one token if the value says so. -/
def Reply.Settled (start : State) (moves : α → Prop) : Reply α → Prop
  | .done value state => start.Reaches state ∧ (moves value → state.remaining < start.remaining)
  | .failed _ state => start.Reaches state
  | .exhausted => False

/-- A grammar that answers for every symbol wherever the budget covers it. -/
structure Supply where
  grammar : Grammar Parser
  budget : Nat
  serves : ∀ (symbol : Symbol) (context : Context) (state : State), state.Ended →
    16 * state.remaining + symbol.rank ≤ budget → state.remaining < grammar.fuel →
    (grammar.parse symbol context state).Settled state fun _ => symbol.IsSolid

/-- A place where the supply covers the symbols below the rank. -/
structure Supply.Covers (supply : Supply) (rank : Nat) (state : State) : Prop where
  ended : state.Ended
  budgeted : 16 * state.remaining + rank ≤ supply.budget + 1
  fueled : state.remaining < supply.grammar.fuel

/-- Wherever the supply covers the rank, the parser answers. -/
class Answers (supply : Supply) (rank : Nat) (moves : α → Prop) (p : Parser α) : Prop where
  settled (context : Context) (state : State) (covers : supply.Covers rank state) :
    (p context state).Settled state moves

/-- The first rank lies below the second one. -/
class Below (low high : Nat) : Prop where
  lt : low < high

instance Below.succ (rank : Nat) : Below rank (rank + 1) := ⟨Nat.lt_succ_self rank⟩

instance Below.step (low high : Nat) [below : Below low high] : Below low (high + 1) :=
  ⟨Nat.lt_succ_of_lt below.lt⟩

namespace Supply.Covers

variable {supply : Supply} {rank : Nat} {first second : State}

theorem same (covers : supply.Covers rank first) (reaches : first.Reaches second) :
    supply.Covers rank second := by
  have fewer := reaches.remaining_le
  have budgeted := covers.budgeted
  exact ⟨reaches.ended covers.ended, by omega, Nat.lt_of_le_of_lt fewer covers.fueled⟩

/-- A token pays for every rank. -/
theorem later (covers : supply.Covers rank first) (reaches : first.Reaches second)
    (read : second.remaining < first.remaining) : supply.Covers 16 second := by
  have budgeted := covers.budgeted
  exact ⟨reaches.ended covers.ended, by omega, Nat.lt_trans read covers.fueled⟩

end Supply.Covers

namespace Reply

variable {first second : State} {moves : α → Prop} {reply : Reply α}

theorem Settled.from_later (reaches : first.Reaches second)
    (settled : reply.Settled second moves) : reply.Settled first moves := by
  cases reply with
  | done value state =>
    exact ⟨reaches.trans settled.1, fun moved =>
      Nat.lt_of_lt_of_le (settled.2 moved) reaches.remaining_le⟩
  | failed error state => exact reaches.trans settled
  | exhausted => exact settled

theorem Settled.from_read (reaches : first.Reaches second) (read : second.remaining < first.remaining)
    (settled : reply.Settled second Never) : reply.Settled first moves := by
  cases reply with
  | done value state =>
    exact ⟨reaches.trans settled.1, fun _ => Nat.lt_of_le_of_lt settled.1.remaining_le read⟩
  | failed error state => exact reaches.trans settled
  | exhausted => exact settled

theorem Settled.weaken {other : α → Prop} (settled : reply.Settled first moves)
    (fewer : ∀ value, other value → moves value) : reply.Settled first other := by
  cases reply with
  | done value state => exact ⟨settled.1, fun moved => settled.2 (fewer value moved)⟩
  | failed => exact settled
  | exhausted => exact settled

end Reply

/-- Where the supply covers the rank, the parser answers at this place. -/
def AnswersAt (supply : Supply) (rank : Nat) (moves : α → Prop) (state : State) (p : Parser α) :
    Prop :=
  ∀ context, supply.Covers rank state → (p context state).Settled state moves

namespace AnswersAt

variable {supply : Supply} {rank : Nat} {moves : α → Prop} {after : β → Prop} {state : State}
  {p : Parser α} {f : α → Parser β}

theorem anywhere [answers : Answers supply rank moves p] : AnswersAt supply rank moves state p :=
  fun context covers => answers.settled context state covers

/-- A parser and what follows it, which may call everything once a token has been read. -/
theorem bindOf (first : AnswersAt supply rank moves state p)
    (moved : ∀ value, moves value → Answers supply 16 Never (f value))
    (idle : ∀ value, ¬ moves value → Answers supply rank after (f value)) :
    AnswersAt supply rank after state (p >>= f) := by
  intro context covers
  have settled := first context covers
  show (Parser.bind p f context state).Settled state after
  unfold Parser.bind
  cases reply : p context state with
  | exhausted =>
    rw [reply] at settled
    exact settled.elim
  | failed error stopped =>
    rw [reply] at settled
    exact settled
  | done value reached =>
    rw [reply] at settled
    obtain ⟨reaches, read⟩ := settled
    by_cases does : moves value
    · exact ((moved value does).settled context reached
        (covers.later reaches (read does))).from_read reaches (read does)
    · exact ((idle value does).settled context reached (covers.same reaches)).from_later reaches

theorem movingThen (first : AnswersAt supply rank Always state p)
    (later : ∀ value, Answers supply 16 Never (f value)) :
    AnswersAt supply rank after state (p >>= f) :=
  bindOf first (fun value _ => later value) fun _ idle => absurd trivial idle

theorem andThen (first : AnswersAt supply rank Never state p)
    (later : ∀ value, Answers supply rank after (f value)) :
    AnswersAt supply rank after state (p >>= f) :=
  bindOf first (fun _ moved => moved.elim) fun value _ => later value

/-- A parser that only looks at the place, and what it finds there. -/
theorem lookThen {value : α} (looks : ∀ context, p context state = .done value state)
    (later : AnswersAt supply rank after state (f value)) :
    AnswersAt supply rank after state (p >>= f) := by
  intro context covers
  show (Parser.bind p f context state).Settled state after
  unfold Parser.bind
  rw [looks]
  exact later context covers

theorem lookahead (inner : AnswersAt supply rank Never state p) :
    AnswersAt supply rank Never state (Parser.lookahead p) := by
  intro context covers
  have settled := inner context covers
  rw [Parser.lookahead_apply]
  cases reply : p context state with
  | exhausted =>
    rw [reply] at settled
    exact settled
  | failed => exact ⟨.refl, False.elim⟩
  | done => exact ⟨.refl, False.elim⟩

theorem here {g : State → Parser α} (known : AnswersAt supply rank moves state (g state)) :
    AnswersAt supply rank moves state (Parser.here >>= g) :=
  fun context covers => known context covers

theorem byContext {g : Context → Parser α}
    (each : ∀ context, AnswersAt supply rank moves state (g context)) :
    AnswersAt supply rank moves state (Parser.context >>= g) :=
  fun context covers => each context context covers

/-- The current token is not the end token and is read. -/
theorem advance {f : Unit → Parser β} (inside : state.atEnd = false)
    (later : Answers supply 16 Never (f ())) :
    AnswersAt supply rank after state (Parser.advance >>= f) := by
  refine movingThen (fun context covers => ?_) fun _ => later
  exact ⟨.next .refl, fun _ => State.remaining_next_lt covers.ended inside⟩

end AnswersAt

namespace Answers

open CppSyntax.Parser

variable {supply : Supply} {rank : Nat} {moves : α → Prop} {after : β → Prop} {p : Parser α}
  {f : α → Parser β}

theorem weaken {other : α → Prop} (answers : Answers supply rank moves p)
    (fewer : ∀ value, other value → moves value) : Answers supply rank other p :=
  ⟨fun context state covers => (answers.settled context state covers).weaken fewer⟩

theorem bindOf (first : Answers supply rank moves p)
    (moved : ∀ value, moves value → Answers supply 16 Never (f value))
    (idle : ∀ value, ¬ moves value → Answers supply rank after (f value)) :
    Answers supply rank after (p >>= f) :=
  ⟨fun context _ covers => AnswersAt.bindOf .anywhere moved idle context covers⟩

instance (priority := high) bindAlways [first : Answers supply rank Always p]
    [later : ∀ value, Answers supply 16 Never (f value)] : Answers supply rank after (p >>= f) :=
  bindOf first (fun value _ => later value) fun _ idle => absurd trivial idle

instance bindNever [first : Answers supply rank Never p]
    [later : ∀ value, Answers supply rank after (f value)] : Answers supply rank after (p >>= f) :=
  bindOf first (fun _ moved => moved.elim) fun value _ => later value

theorem andThen (first : Answers supply rank Never p)
    (later : ∀ value, Answers supply rank after (f value)) : Answers supply rank after (p >>= f) :=
  bindNever

/-- Behind a token everything may be called. -/
theorem movingThen (first : Answers supply rank Always p)
    (later : ∀ value, Answers supply 16 Never (f value)) : Answers supply rank after (p >>= f) :=
  bindAlways

instance (priority := low) never [answers : Answers supply rank Always p] :
    Answers supply rank Never p :=
  answers.weaken fun _ => False.elim

instance (priority := high) bindOption {q : Parser (Option α)} {f : Option α → Parser β}
    [first : Answers supply rank Never q] [found : ∀ value, Answers supply rank after (f (some value))]
    [missing : Answers supply rank after (f none)] : Answers supply rank after (q >>= f) :=
  andThen first fun value => by
    cases value with
    | none => exact missing
    | some value => exact found value

instance (priority := high) bindFound {q : Parser (Option α)} {f : Option α → Parser β}
    [first : Answers supply rank IsFound q] [found : ∀ value, Answers supply 16 Never (f (some value))]
    [missing : Answers supply rank after (f none)] : Answers supply rank after (q >>= f) := by
  refine bindOf first (fun value moved => ?_) fun value idle => ?_
  · cases value with
    | none => cases moved
    | some value => exact found value
  · cases value with
    | none => exact missing
    | some value => exact absurd rfl idle

instance (priority := high) bindOptionAlways {q : Parser (Option α)} {f : Option α → Parser β}
    [first : Answers supply rank Always q] [found : ∀ value, Answers supply 16 Never (f (some value))]
    [missing : Answers supply 16 Never (f none)] : Answers supply rank after (q >>= f) :=
  movingThen first fun value => by
    cases value with
    | none => exact missing
    | some value => exact found value

instance (priority := high) bindPair {q : Parser (α × β)} {f : α × β → Parser γ} {after : γ → Prop}
    [first : Answers supply rank Never q] [later : ∀ a b, Answers supply rank after (f (a, b))] :
    Answers supply rank after (q >>= f) :=
  andThen first fun (a, b) => later a b

instance (priority := high) bindPairAlways {q : Parser (α × β)} {f : α × β → Parser γ}
    {after : γ → Prop} [first : Answers supply rank Always q]
    [later : ∀ a b, Answers supply 16 Never (f (a, b))] : Answers supply rank after (q >>= f) :=
  movingThen first fun (a, b) => later a b

instance pureNever {value : α} : Answers supply rank Never (pure value : Parser α) :=
  ⟨fun _ _ _ => ⟨.refl, False.elim⟩⟩

theorem pureThen {value : α} (later : Answers supply rank after (f value)) :
    Answers supply rank after (pure value >>= f) :=
  later

instance pureResult {value : β} :
    Answers supply rank GoesOn (pure (.inr value) : Parser (α ⊕ β)) :=
  ⟨fun _ _ _ => ⟨.refl, fun left => by cases left⟩⟩

instance fail {expected : Expectation} : Answers supply rank moves (Parser.fail expected) :=
  ⟨fun _ _ _ => .refl⟩

instance failWith {error : SyntaxError} : Answers supply rank moves (Parser.failWith error) :=
  ⟨fun _ _ _ => .refl⟩

instance context : Answers supply rank Never Parser.context :=
  ⟨fun _ _ _ => ⟨.refl, False.elim⟩⟩

instance here : Answers supply rank Never Parser.here :=
  ⟨fun _ _ _ => ⟨.refl, False.elim⟩⟩

instance trailingComment : Answers supply rank Never Parser.trailingComment := by
  unfold Parser.trailingComment
  infer_instance

instance declareType (ident : String) : Answers supply rank Never (Parser.declareType ident) := by
  constructor
  intro context state covers
  rw [Parser.declareType_apply]
  split
  · exact ⟨.refl, False.elim⟩
  · exact ⟨.declare ident .refl, False.elim⟩

instance declareTypes (idents : List String) :
    Answers supply rank Never (Parser.declareTypes idents) := by
  induction idents with
  | nil => exact pureNever
  | cons ident rest ih => exact andThen inferInstance fun _ => ih

instance advance : Answers supply rank Never Parser.advance :=
  ⟨fun _ _ _ => ⟨.next .refl, False.elim⟩⟩

instance advanceBy (count : Nat) : Answers supply rank Never (Parser.advanceBy count) := by
  induction count with
  | zero => exact pureNever
  | succ count ih => exact bindNever

theorem acceptIfThere {passes : State → Bool} (inside : ∀ state, passes state = true → state.atEnd = false) :
    Answers supply rank WasThere (Parser.acceptIf passes) := by
  constructor
  intro context state covers
  rw [Parser.acceptIf_apply]
  split
  · rename_i passed
    exact ⟨.next .refl, fun _ => State.remaining_next_lt covers.ended (inside state passed)⟩
  · exact ⟨.refl, fun moved => by cases moved⟩

theorem acceptThere (mark : Punctuator) : Answers supply rank WasThere (accept mark) :=
  acceptIfThere fun _ => State.inside_of_isAt

theorem acceptWordThere (word : Keyword) : Answers supply rank WasThere (acceptWord word) :=
  acceptIfThere fun _ => State.inside_of_isAtWord

theorem acceptIdentThere (ident : String) : Answers supply rank WasThere (acceptIdent ident) :=
  acceptIfThere fun state passed => by simp_all [State.isAtIdent, State.atEnd]

instance acceptIf (passes : State → Bool) : Answers supply rank Never (Parser.acceptIf passes) := by
  constructor
  intro context state covers
  rw [Parser.acceptIf_apply]
  split
  · exact ⟨.next .refl, False.elim⟩
  · exact ⟨.refl, False.elim⟩

instance accept (mark : Punctuator) : Answers supply rank Never (Parser.accept mark) :=
  (acceptThere mark).weaken fun _ => False.elim

instance acceptWord (word : Keyword) : Answers supply rank Never (Parser.acceptWord word) :=
  (acceptWordThere word).weaken fun _ => False.elim

private theorem branch {found : Parser Bool} {yes no : Parser α} (first : Answers supply rank WasThere found)
    (there : Answers supply 16 Never yes) (missing : Answers supply rank moves no) :
    Answers supply rank moves (found >>= fun there => if there = true then yes else no) := by
  refine bindOf first ?_ ?_
  · rintro _ rfl
    exact there
  · intro value absent
    cases value with
    | true => exact absurd rfl absent
    | false => exact missing

instance (priority := high) acceptBranch {yes no : Parser α} (mark : Punctuator)
    [there : Answers supply 16 Never yes] [missing : Answers supply rank moves no] :
    Answers supply rank moves (Parser.accept mark >>= fun found => if found = true then yes else no) :=
  branch (acceptThere mark) there missing

instance (priority := high) acceptWordBranch {yes no : Parser α} (word : Keyword)
    [there : Answers supply 16 Never yes] [missing : Answers supply rank moves no] :
    Answers supply rank moves
      (Parser.acceptWord word >>= fun found => if found = true then yes else no) :=
  branch (acceptWordThere word) there missing

instance (priority := high) acceptIdentBranch {yes no : Parser α} (ident : String)
    [there : Answers supply 16 Never yes] [missing : Answers supply rank moves no] :
    Answers supply rank moves
      (Parser.acceptIdent ident >>= fun found => if found = true then yes else no) :=
  branch (acceptIdentThere ident) there missing

instance expect (mark : Punctuator) (purpose : String) :
    Answers supply rank Always (Parser.expect mark purpose) := by
  unfold Parser.expect
  infer_instance

instance expectWord (word : Keyword) (purpose : String) :
    Answers supply rank Always (Parser.expectWord word purpose) := by
  unfold Parser.expectWord
  infer_instance

instance ite {holds : Prop} [Decidable holds] {yes no : Parser α}
    [first : Answers supply rank moves yes] [second : Answers supply rank moves no] :
    Answers supply rank moves (if holds then yes else no) := by
  split
  · exact first
  · exact second

theorem iteOf {holds : Prop} [Decidable holds] {yes no : Parser α}
    (first : Answers supply rank moves yes) (second : Answers supply rank moves no) :
    Answers supply rank moves (if holds then yes else no) :=
  ite

instance map {g : α → β} [inner : Answers supply rank Never p] :
    Answers supply rank Never (g <$> p) :=
  bindNever (f := fun value => pure (g value))

instance mapAlways {g : α → β} [inner : Answers supply rank Always p] :
    Answers supply rank Always (g <$> p) :=
  bindAlways (f := fun value => pure (g value))

instance attempt [inner : Answers supply rank Never p] :
    Answers supply rank Never (Parser.attempt p) := by
  constructor
  intro context state covers
  have settled := inner.settled context state covers
  rw [Parser.attempt_apply]
  cases reply : p context state with
  | exhausted =>
    rw [reply] at settled
    exact settled
  | failed => exact ⟨.refl, False.elim⟩
  | done =>
    rw [reply] at settled
    exact ⟨settled.1, False.elim⟩

instance attemptAlways [inner : Answers supply rank Always p] :
    Answers supply rank IsFound (Parser.attempt p) := by
  constructor
  intro context state covers
  have settled := inner.settled context state covers
  rw [Parser.attempt_apply]
  cases reply : p context state with
  | exhausted =>
    rw [reply] at settled
    exact settled
  | failed => exact ⟨.refl, fun found => by cases found⟩
  | done =>
    rw [reply] at settled
    exact ⟨settled.1, fun _ => settled.2 trivial⟩

instance lookahead [inner : Answers supply rank Never p] :
    Answers supply rank Never (Parser.lookahead p) :=
  ⟨fun context _ covers => AnswersAt.lookahead .anywhere context covers⟩

theorem mapThen {g : α → β} {f : β → Parser γ} {after : γ → Prop}
    (answers : Answers supply rank after (p >>= fun value => f (g value))) :
    Answers supply rank after ((g <$> p) >>= f) := by
  constructor
  intro context state covers
  have settled := answers.settled context state covers
  change (Parser.bind p _ context state).Settled state after at settled
  show (Parser.bind (Parser.bind p _) f context state).Settled state after
  unfold Parser.bind at settled ⊢
  cases reply : p context state with
  | exhausted =>
    rw [reply] at settled
    exact settled
  | failed =>
    rw [reply] at settled
    exact settled
  | done =>
    rw [reply] at settled
    exact settled

/-- A value that was tried for was read; an error leaves the place as it was. -/
private theorem speculate (inner : Answers supply rank Always p) :
    Answers supply rank IsOk (Parser.speculate p) := by
  constructor
  intro context state covers
  have settled := inner.settled context state covers
  rw [Parser.speculate_apply]
  cases reply : p context state with
  | exhausted =>
    rw [reply] at settled
    exact settled
  | failed => exact ⟨.refl, fun accepted => by cases accepted⟩
  | done =>
    rw [reply] at settled
    exact ⟨settled.1, fun _ => settled.2 trivial⟩

theorem speculateThen {f : Except SyntaxError α → Parser β} (inner : Answers supply rank Always p)
    (accepted : ∀ value, Answers supply 16 Never (f (.ok value)))
    (rejected : ∀ error, Answers supply rank after (f (.error error))) :
    Answers supply rank after (Parser.speculate p >>= f) := by
  refine bindOf (speculate inner) (fun result moved => ?_) fun result idle => ?_
  · cases result with
    | ok value => exact accepted value
    | error => cases moved
  · cases result with
    | ok value => exact absurd rfl idle
    | error error => exact rejected error

instance angleCloses {closes : Bool} [inner : Answers supply rank moves p] :
    Answers supply rank moves (Parser.angleCloses closes p) :=
  ⟨fun _ state covers => inner.settled _ state covers⟩

instance insideClass {ident : String} [inner : Answers supply rank moves p] :
    Answers supply rank moves (Parser.insideClass ident p) :=
  ⟨fun _ state covers => inner.settled _ state covers⟩

instance nested [inner : Answers supply rank moves p] :
    Answers supply rank moves (Parser.nested p) := by
  constructor
  intro context state covers
  show ((if nestingLimit ≤ context.depth then Parser.fail (.phrase "nesting depth limit")
    else deeper p : Parser α)
      context state).Settled state moves
  split
  · exact .refl
  · exact inner.settled _ state covers

private theorem repeats {step : α → Parser (α ⊕ β)}
    (steps : ∀ value, Answers supply rank GoesOn (step value)) :
    ∀ fuel value context (state : State), supply.Covers rank state → state.remaining < fuel →
      (iterate step fuel value context state).Settled state Never := by
  intro fuel
  induction fuel with
  | zero =>
    intro value context state _ short
    exact absurd short (Nat.not_lt_zero _)
  | succ fuel ih =>
    intro value context state covers short
    have settled := (steps value).settled context state covers
    show (Parser.bind _ _ context state).Settled state Never
    unfold Parser.bind
    cases reply : step value context state with
    | exhausted =>
      rw [reply] at settled
      exact settled
    | failed error stopped =>
      rw [reply] at settled
      exact settled
    | done result reached =>
      rw [reply] at settled
      obtain ⟨reaches, read⟩ := settled
      cases result with
      | inr result => exact ⟨reaches, False.elim⟩
      | inl again =>
        have less := read rfl
        exact (ih again context reached (covers.same reaches) (by omega)).from_later reaches

/-- A loop whose repetitions each read a token. -/
instance loop {step : α → Parser (α ⊕ β)} {start : α}
    [steps : ∀ value, Answers supply rank GoesOn (step value)] :
    Answers supply rank Never (supply.grammar.loop step start) :=
  ⟨fun context state covers => repeats steps _ start context state covers covers.fueled⟩

theorem loopOf {step : α → Parser (α ⊕ β)} {start : α}
    (steps : ∀ value, Answers supply rank GoesOn (step value)) :
    Answers supply rank Never (supply.grammar.loop step start) :=
  loop

/-- A loop whose every step reads a token. -/
theorem loopAlways {step : α → Parser (α ⊕ β)} {start : α}
    (steps : ∀ value, Answers supply rank Always (step value)) :
    Answers supply rank Always (supply.grammar.loop step start) := by
  constructor
  intro context state covers
  have goesOn : ∀ value, Answers supply rank GoesOn (step value) :=
    fun value => (steps value).weaken fun _ _ => trivial
  unfold Grammar.loop
  cases enough : supply.grammar.fuel with
  | zero => exact absurd (enough ▸ covers.fueled) (Nat.not_lt_zero _)
  | succ fuel =>
    have settled := (steps start).settled context state covers
    show (Parser.bind _ _ context state).Settled state Always
    unfold Parser.bind
    cases reply : step start context state with
    | exhausted =>
      rw [reply] at settled
      exact settled
    | failed error stopped =>
      rw [reply] at settled
      exact settled
    | done result reached =>
      rw [reply] at settled
      obtain ⟨reaches, read⟩ := settled
      have less := read trivial
      have fueled := covers.fueled
      cases result with
      | inr result => exact ⟨reaches, fun _ => less⟩
      | inl again =>
        exact (repeats goesOn fuel again context reached (covers.same reaches)
          (by omega)).from_read reaches less

/-- A symbol of a lower rank. -/
theorem symbol (symbol : Symbol) (below : symbol.rank < rank) :
    Answers supply rank (fun _ => symbol.IsSolid) (supply.grammar.parse symbol) := by
  constructor
  intro context state covers
  have budgeted := covers.budgeted
  exact supply.serves symbol context state covers.ended (by omega) covers.fueled

end Answers

theorem AnswersAt.advanceBy {supply : Supply} {rank : Nat} {after : β → Prop} {state : State}
    {f : Unit → Parser β} {count : Nat} (inside : state.atEnd = false)
    (later : Answers supply 16 Never (f ())) :
    AnswersAt supply rank after state (Parser.advanceBy (count + 1) >>= f) :=
  movingThen (fun context covers => advance inside (Answers.advanceBy count) context covers)
    fun _ => later

namespace Answers

variable {supply : Supply} {rank : Nat} {moves : α → Prop}

/-- A parser that goes by the place where it stands. -/
theorem byPlace {f : State → Parser α}
    (each : ∀ state, AnswersAt supply rank moves state (f state)) :
    Answers supply rank moves (Parser.here >>= f) :=
  ⟨fun context state covers => each state context covers⟩

instance optionalIdentifier : Answers supply rank IsFound Parser.optionalIdentifier := by
  refine byPlace fun state => ?_
  split
  · rename_i ident identifier
    exact .advance (State.inside_of_kind identifier nofun) inferInstance
  · exact fun _ _ => ⟨.refl, fun found => by cases found⟩

instance expectIdentifier (purpose : String) :
    Answers supply rank Always (Parser.expectIdentifier purpose) := by
  unfold Parser.expectIdentifier
  infer_instance

end Answers

end CppSyntax
