import CppSyntax.Proofs.Account.Names
import CppSyntax.Proofs.Parsing.Place

/-!
Parsers that account for what they do. Started at or behind a given place, such a parser either reads
on from there, and then the names that its value introduces as types are known behind it, or it fails
with an error that tells of a token at or behind the place. That a rule accounts for what it does is
found by instances once its parts do.
-/

namespace CppSyntax

open CppSyntax.Parser

/-- A place at or behind the given one. -/
structure Behind (place : State) where
  state : State
  reaches : place.Reaches state

/-- The two errors that do not name a token as what was found. -/
inductive SyntaxError.IsHandMade : SyntaxError → Prop
  | storageClass (location : Location) :
      IsHandMade ⟨location, .phrase "type name", .storageClass⟩
  | operands (location : Location) (count : Nat) :
      IsHandMade ⟨location, .phrase "a single operand in functional cast", .operands count⟩

/-- The error stands at a token at or behind the place, which is also what was found, unless the error
is made by hand. -/
class SyntaxError.TellsOf (error : SyntaxError) (place : State) : Prop where
  located : ∃ token ∈ place.tokens, error.location = token.location ∧
    (error.found = .token token.kind ∨ error.IsHandMade)

namespace State

variable {place state : State}

theorem tokens_next_suffix (state : State) : state.next.tokens <:+ state.tokens := by
  unfold State.next
  split
  · exact List.suffix_rfl
  · split
    · exact List.suffix_rfl
    · rename_i token rest following
      have same : state.tokens = state.current :: token :: rest := by rw [tokens, following]
      exact same ▸ List.suffix_cons ..

theorem Reaches.tokens_suffix (reaches : place.Reaches state) : state.tokens <:+ place.tokens := by
  induction reaches with
  | refl => exact List.suffix_rfl
  | next _ ih => exact (tokens_next_suffix _).trans ih
  | declare _ _ ih => exact ih

theorem next_typeNames (state : State) : state.next.typeNames = state.typeNames := by
  unfold State.next
  split
  · rfl
  · split <;> rfl

end State

namespace SyntaxError.TellsOf

variable {place : State}

theorem of_current (there : Behind place) {error : SyntaxError}
    (located : error.location = there.state.current.location)
    (found : error.found = .token there.state.kind ∨ error.IsHandMade) : error.TellsOf place :=
  ⟨there.state.current, there.reaches.tokens_suffix.subset (List.mem_cons_self ..), located, found⟩

instance current {there : Behind place} {expected : Expectation} :
    (there.state.error expected).TellsOf place :=
  of_current there rfl (.inl rfl)

instance storageClass {there : Behind place} : SyntaxError.TellsOf
    ⟨there.state.current.location, .phrase "type name", .storageClass⟩ place :=
  of_current there rfl (.inr (.storageClass _))

instance operands {there : Behind place} {count : Nat} : SyntaxError.TellsOf
    ⟨there.state.current.location, .phrase "a single operand in functional cast", .operands count⟩
    place :=
  of_current there rfl (.inr (.operands _ _))

instance further {first second : SyntaxError} [firstTells : first.TellsOf place]
    [secondTells : second.TellsOf place] : (first.further second).TellsOf place := by
  unfold SyntaxError.further
  split
  · exact secondTells
  · exact firstTells

end SyntaxError.TellsOf

theorem Parser.bind_assoc (p : Parser α) (f : α → Parser β) (g : β → Parser γ) :
    p >>= f >>= g = p >>= fun a => f a >>= g := by
  funext context state
  show Parser.bind (Parser.bind p f) g context state = Parser.bind p _ context state
  unfold Parser.bind
  cases p context state <;> rfl

theorem Parser.map_bind (g : α → β) (p : Parser α) (f : β → Parser γ) :
    g <$> p >>= f = p >>= fun a => f (g a) :=
  Parser.bind_assoc p (fun a => pure (g a)) f

/-- What a reply has to account for, from a place at which names are known. -/
def Reply.Accounted (names : α → List String) (place : State) (known : List String) : Reply α → Prop
  | .done value reached => place.Reaches reached ∧ known ++ names value ⊆ reached.typeNames
  | .failed error _ => error.TellsOf place
  | .exhausted => True

/-- What is accounted for with more names known. -/
theorem Reply.Accounted.fewer {names : α → List String} {place : State} {known more : List String}
    {reply : Reply α} (account : reply.Accounted names place (known ++ more)) :
    reply.Accounted names place known := by
  cases reply with
  | done value reached =>
    obtain ⟨behind, found⟩ := account
    rw [List.append_subset, List.append_subset] at found
    exact ⟨behind, List.append_subset.mpr ⟨found.1.1, found.2⟩⟩
  | failed => exact account
  | exhausted => trivial

/-- Wherever the parser starts behind the place with these names known, it accounts for its reply. The
names of a value are those that have to be known behind it. -/
class AccountsFor (names : α → List String) (place : State) (known : List String) (p : Parser α) :
    Prop where
  accounted (context : Context) (state : State) (behind : place.Reaches state)
    (before : known ⊆ state.typeNames) : (p context state).Accounted names place known

/-- The parser accounts for all names that its value introduces. -/
abbrev Accounts [HasNodes α] (place : State) (known : List String) (p : Parser α) : Prop :=
  AccountsFor namesIn place known p

namespace AccountsFor

variable {names : β → List String} {others : α → List String} {place : State} {known : List String}
  {p : Parser α} {f : α → Parser β} {q : Parser β}

/-- A value with names that are known. -/
theorem answer {value : β} (holds : names value ⊆ known) :
    AccountsFor names place known (Pure.pure value : Parser β) :=
  ⟨fun _ _ behind before => ⟨behind, List.append_subset.mpr ⟨before, List.Subset.trans holds before⟩⟩⟩

/-- What follows a parser only has to account for replies from where the parser may stop. -/
theorem bindOf (first : AccountsFor others place known p)
    (later : ∀ value context state, place.Reaches state → known ++ others value ⊆ state.typeNames →
      (f value context state).Accounted names place known) :
    AccountsFor names place known (p >>= f) := by
  refine ⟨fun context state behind before => ?_⟩
  have account := first.accounted context state behind before
  show (Parser.bind p f context state).Accounted names place known
  unfold Parser.bind
  cases reply : p context state with
  | done value reached =>
    rw [reply] at account
    exact later value context reached account.1 account.2
  | failed error stopped =>
    rw [reply] at account
    exact account
  | exhausted => trivial

theorem andThenOf (first : AccountsFor others place known p)
    (later : ∀ value, AccountsFor names place (known ++ others value) (f value)) :
    AccountsFor names place known (p >>= f) :=
  bindOf first fun value context state behind before =>
    ((later value).accounted context state behind before).fewer

section

variable [HasNodes α] [HasNodes γ]

theorem andThen (first : Accounts place known p)
    (later : ∀ value, AccountsFor names place (known ++ namesIn value) (f value)) :
    AccountsFor names place known (p >>= f) :=
  andThenOf first later

theorem andThenPlain [Treeless α] (first : Accounts place known p)
    (later : ∀ value, AccountsFor names place known (f value)) :
    AccountsFor names place known (p >>= f) :=
  bindOf first fun value context state behind before =>
    (later value).accounted context state behind (List.append_subset.mp before).1

theorem whether {p : Parser (Option α)} {f : Option α → Parser β} (first : Accounts place known p)
    (found : ∀ value, AccountsFor names place (known ++ namesIn value) (f (some value)))
    (missing : AccountsFor names place known (f none)) :
    AccountsFor names place known (p >>= f) := by
  refine bindOf first fun value context state behind before => ?_
  cases value with
  | none => exact missing.accounted context state behind (List.append_subset.mp before).1
  | some value =>
    rw [namesIn_some] at before
    exact ((found value).accounted context state behind before).fewer

instance bind [first : Accounts place known p]
    [later : ∀ value, AccountsFor names place (known ++ namesIn value) (f value)] :
    AccountsFor names place known (p >>= f) :=
  andThen first later

instance (priority := 10000) bindPlain [Treeless α] [first : Accounts place known p]
    [later : ∀ value, AccountsFor names place known (f value)] :
    AccountsFor names place known (p >>= f) :=
  andThenPlain first later

instance (priority := 10001) bindOption {p : Parser (Option α)} {f : Option α → Parser β}
    [first : Accounts place known p]
    [found : ∀ value, AccountsFor names place (known ++ namesIn value) (f (some value))]
    [missing : AccountsFor names place known (f none)] : AccountsFor names place known (p >>= f) :=
  whether first found missing

instance (priority := 10001) bindPair {p : Parser (α × γ)} {f : α × γ → Parser β}
    [first : Accounts place known p]
    [later : ∀ a c, AccountsFor names place (known ++ namesIn a ++ namesIn c) (f (a, c))] :
    AccountsFor names place known (p >>= f) := by
  refine andThen first fun (a, c) => ?_
  rw [namesIn_pair, ← List.append_assoc]
  exact later a c

instance (priority := 10002) bindTriple [HasNodes δ] {p : Parser (α × γ × δ)}
    {f : α × γ × δ → Parser β} [first : Accounts place known p]
    [later : ∀ a c d,
      AccountsFor names place (known ++ namesIn a ++ namesIn c ++ namesIn d) (f (a, c, d))] :
    AccountsFor names place known (p >>= f) := by
  refine andThen first fun (a, c, d) => ?_
  rw [namesIn_pair, namesIn_pair, ← List.append_assoc, ← List.append_assoc]
  exact later a c d

instance pure {value : α} [holds : Known value known] :
    Accounts place known (Pure.pure value : Parser α) :=
  answer holds.subset

instance map {g : α → γ} [first : Accounts place known p]
    [kept : ∀ value, Known (g value) (known ++ namesIn value)] : Accounts place known (g <$> p) :=
  andThen first fun value => answer (kept value).subset

end

instance branch {condition : Prop} [Decidable condition] {other : Parser β}
    [yes : AccountsFor names place known q] [no : AccountsFor names place known other] :
    AccountsFor names place known (if condition then q else other) := by
  split <;> assumption

theorem byPlace {f : State → Parser β}
    (each : ∀ there : Behind place, AccountsFor names place known (f there.state)) :
    AccountsFor names place known (Parser.here >>= f) :=
  ⟨fun context state behind before => (each ⟨state, behind⟩).accounted context state behind before⟩

instance (priority := 10003) here {f : State → Parser β}
    [each : ∀ there : Behind place, AccountsFor names place known (f there.state)] :
    AccountsFor names place known (Parser.here >>= f) :=
  byPlace each

instance context : Accounts place known (Parser.context : Parser Context) :=
  ⟨fun _ _ behind before => ⟨behind, by simpa using before⟩⟩

instance failWith {error : SyntaxError} [tells : error.TellsOf place] :
    AccountsFor names place known (Parser.failWith error : Parser β) :=
  ⟨fun _ _ _ _ => tells⟩

instance fail {expected : Expectation} :
    AccountsFor names place known (Parser.fail expected : Parser β) := by
  unfold Parser.fail
  infer_instance

instance advance : Accounts place known (Parser.advance : Parser Unit) :=
  ⟨fun _ state behind before => ⟨behind.next, by simpa [State.next_typeNames] using before⟩⟩

instance advanceBy {count : Nat} : Accounts place known (Parser.advanceBy count : Parser Unit) := by
  induction count with
  | zero => exact inferInstanceAs (Accounts place known (Pure.pure () : Parser Unit))
  | succ count ih =>
    unfold Parser.advanceBy
    infer_instance

instance acceptIf {passes : State → Bool} :
    Accounts place known (Parser.acceptIf passes : Parser Bool) := by
  refine ⟨fun context state behind before => ?_⟩
  rw [Parser.acceptIf_apply]
  split
  · exact ⟨behind.next, by simpa [State.next_typeNames] using before⟩
  · exact ⟨behind, by simpa using before⟩

instance accept {mark : Punctuator} : Accounts place known (Parser.accept mark : Parser Bool) := by
  unfold Parser.accept
  infer_instance

instance acceptWord {word : Keyword} : Accounts place known (Parser.acceptWord word : Parser Bool) := by
  unfold Parser.acceptWord
  infer_instance

instance acceptIdent {ident : String} :
    Accounts place known (Parser.acceptIdent ident : Parser Bool) := by
  unfold Parser.acceptIdent
  infer_instance

instance expect {mark : Punctuator} {purpose : String} :
    Accounts place known (Parser.expect mark purpose : Parser Unit) := by
  unfold Parser.expect
  infer_instance

instance expectWord {word : Keyword} {purpose : String} :
    Accounts place known (Parser.expectWord word purpose : Parser Unit) := by
  unfold Parser.expectWord
  infer_instance

instance optionalIdentifier :
    Accounts place known (Parser.optionalIdentifier : Parser (Option String)) := by
  unfold Parser.optionalIdentifier
  refine byPlace fun there => ?_
  split <;> infer_instance

instance expectIdentifier {purpose : String} :
    Accounts place known (Parser.expectIdentifier purpose : Parser String) := by
  unfold Parser.expectIdentifier
  infer_instance

instance trailingComment : Accounts place known (Parser.trailingComment : Parser (Option String)) := by
  unfold Parser.trailingComment
  infer_instance

/-- Behind the declaration of a name, it is known with all names before. -/
theorem declareType_reply (ident : String) (context : Context) (state : State) :
    ∃ reached, (Parser.declareType ident : Parser Unit) context state = .done () reached ∧
      state.Reaches reached ∧ state.typeNames ++ [ident] ⊆ reached.typeNames := by
  rw [Parser.declareType_apply]
  by_cases member : ident ∈ state.typeNames
  · rw [if_pos member]
    exact ⟨state, rfl, .refl, by simpa using member⟩
  · rw [if_neg member]
    exact ⟨_, rfl, .declare ident .refl, by simp⟩

theorem declareTypes_reply (idents : List String) (context : Context) (state : State) :
    ∃ reached, (Parser.declareTypes idents : Parser Unit) context state = .done () reached ∧
      state.Reaches reached ∧ state.typeNames ++ idents ⊆ reached.typeNames := by
  induction idents generalizing state with
  | nil => exact ⟨state, rfl, .refl, by simp⟩
  | cons ident idents ih =>
    obtain ⟨middle, declared, toMiddle, first⟩ := declareType_reply ident context state
    obtain ⟨reached, later, toReached, rest⟩ := ih middle
    refine ⟨reached, ?_, toMiddle.trans toReached, ?_⟩
    · show Parser.bind (Parser.declareType ident) (fun _ => Parser.declareTypes idents) context state = _
      rw [Parser.bind, declared]
      exact later
    · obtain ⟨kept, added⟩ := List.append_subset.mp rest
      rw [List.append_cons]
      exact List.append_subset.mpr ⟨List.Subset.trans first kept, added⟩

/-- What follows a declaration may rely on the declared names. -/
theorem declaredThen {p : Parser Unit} {f : Unit → Parser β} {idents : List String}
    (declares : ∀ context state, ∃ reached, p context state = .done () reached ∧
      state.Reaches reached ∧ state.typeNames ++ idents ⊆ reached.typeNames)
    (later : AccountsFor names place (known ++ idents) (f ())) :
    AccountsFor names place known (p >>= f) := by
  refine ⟨fun context state behind before => ?_⟩
  obtain ⟨reached, declared, reaches, grown⟩ := declares context state
  show (Parser.bind p f context state).Accounted names place known
  rw [Parser.bind, declared]
  refine (later.accounted context reached (behind.trans reaches) ?_).fewer
  obtain ⟨kept, added⟩ := List.append_subset.mp grown
  exact List.append_subset.mpr ⟨List.Subset.trans before kept, added⟩

instance (priority := 10003) declareType {ident : String} {f : Unit → Parser β}
    [later : AccountsFor names place (known ++ [ident]) (f ())] :
    AccountsFor names place known (Parser.declareType ident >>= f) :=
  declaredThen (declareType_reply ident) later

instance (priority := 10003) declareTypes {idents : List String} {f : Unit → Parser β}
    [later : AccountsFor names place (known ++ idents) (f ())] :
    AccountsFor names place known (Parser.declareTypes idents >>= f) :=
  declaredThen (declareTypes_reply idents) later

/-- A trial hands on what it read, or the error, which still tells of the place. -/
theorem speculateThen [HasNodes α] {f : Except SyntaxError α → Parser β} (tried : Accounts place known p)
    (done : ∀ value, AccountsFor names place (known ++ namesIn value) (f (.ok value)))
    (failed : ∀ error : SyntaxError, error.TellsOf place →
      AccountsFor names place known (f (.error error))) :
    AccountsFor names place known (Parser.speculate p >>= f) := by
  refine ⟨fun context state behind before => ?_⟩
  have account := tried.accounted context state behind before
  show (Parser.bind (Parser.speculate p) f context state).Accounted names place known
  unfold Parser.bind
  rw [Parser.speculate_apply]
  cases reply : p context state with
  | done value reached =>
    rw [reply] at account
    exact ((done value).accounted context reached account.1 account.2).fewer
  | failed error stopped =>
    rw [reply] at account
    exact (failed error account).accounted context state behind before
  | exhausted => trivial

instance attempt [HasNodes α] [tried : Accounts place known p] :
    Accounts place known (Parser.attempt p : Parser (Option α)) := by
  refine ⟨fun context state behind before => ?_⟩
  have account := tried.accounted context state behind before
  rw [Parser.attempt_apply]
  cases reply : p context state with
  | done value reached =>
    rw [reply] at account
    exact ⟨account.1, by simpa using account.2⟩
  | failed error stopped => exact ⟨behind, by simpa using before⟩
  | exhausted => trivial

/-- Looking ahead leaves the place as it is, whatever the parser answers. -/
instance lookahead [HasNodes α] [Treeless α] :
    Accounts place known (Parser.lookahead p : Parser (Option α)) := by
  refine ⟨fun context state behind before => ?_⟩
  rw [Parser.lookahead_apply]
  cases p context state with
  | done => exact ⟨behind, by simpa using before⟩
  | failed => exact ⟨behind, by simpa using before⟩
  | exhausted => trivial

section

variable [inner : AccountsFor names place known q]

include inner

instance angleCloses {closes : Bool} :
    AccountsFor names place known (Parser.angleCloses closes q : Parser β) :=
  ⟨fun _ state behind before => inner.accounted _ state behind before⟩

instance insideClass {ident : String} :
    AccountsFor names place known (Parser.insideClass ident q : Parser β) :=
  ⟨fun _ state behind before => inner.accounted _ state behind before⟩

instance deeper : AccountsFor names place known (Parser.deeper q : Parser β) :=
  ⟨fun _ state behind before => inner.accounted _ state behind before⟩

instance nested : AccountsFor names place known (Parser.nested q : Parser β) := by
  unfold Parser.nested
  infer_instance

end

/-- What a step of a loop adds to the names of the value it started with, the loop adds in the end. -/
theorem repeated {names : α ⊕ β → List String} {step : α → Parser (α ⊕ β)}
    (one : ∀ value, AccountsFor names place (known ++ names (.inl value)) (step value)) (fuel : Nat)
    {start : α} (holds : names (.inl start) ⊆ known) :
    AccountsFor (fun result => names (.inr result)) place known (Parser.iterate step fuel start) := by
  refine ⟨fun context state behind before => ?_⟩
  have started : known ++ names (.inl start) ⊆ state.typeNames :=
    List.append_subset.mpr ⟨before, List.Subset.trans holds before⟩
  clear holds before
  induction fuel generalizing start state with
  | zero => trivial
  | succ fuel ih =>
    have account := (one start).accounted context state behind started
    show (Parser.bind (step start) _ context state).Accounted _ place known
    unfold Parser.bind
    cases reply : step start context state with
    | done result reached =>
      rw [reply] at account
      obtain ⟨further, grown⟩ := account
      rw [List.append_subset, List.append_subset] at grown
      have grown := List.append_subset.mpr ⟨grown.1.1, grown.2⟩
      cases result with
      | inl again => exact ih reached further grown
      | inr result => exact ⟨further, grown⟩
    | failed error stopped =>
      rw [reply] at account
      exact account
    | exhausted => trivial

instance iterate [HasNodes α] [HasNodes γ] {step : α → Parser (α ⊕ γ)}
    [one : ∀ value, Accounts place (known ++ namesIn value) (step value)] {fuel : Nat} {start : α}
    [holds : Known start known] : Accounts place known (Parser.iterate step fuel start) :=
  repeated (α := α) one fuel holds.subset

instance loop [HasNodes α] [HasNodes γ] {g : Grammar Parser} {step : α → Parser (α ⊕ γ)}
    [∀ value, Accounts place (known ++ namesIn value) (step value)] {start : α}
    [Known start known] : Accounts place known (g.loop step start) :=
  iterate

end AccountsFor

end CppSyntax
