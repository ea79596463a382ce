import CppSyntax.Proofs.Session.Mirror

/-!
How mirroring carries over to what is put together from routines and parsers, as instances. A value
without layout is the same on both sides, any other one is a pair of values that count for the same.
-/

namespace CppSyntax

/-- Two states that show one place. -/
structure Sights (L : Likeness) where
  fst : State
  snd : State
  sees : L.Sees fst snd

namespace Mirrors

open CppSyntax.Parser

variable {L : Likeness} {moves : Bool} [Viewed α] [Viewed β] [Viewed γ]
  {r : Routine α} {p : Parser α} {f : α → Routine β} {g : α → Parser β}

theorem anywhere (mirrors : Mirrors L true r p) : Mirrors L moves r p :=
  ⟨fun session state meets => by
    cases moves with
    | true => exact mirrors.mirrors session state meets
    | false => exact (mirrors.mirrors session state meets).weaken⟩

instance bind [first : Mirrors L false r p]
    [later : ∀ pair : Likes L.detail α, Mirrors L moves (f pair.fst) (g pair.snd)] :
    Mirrors L moves (r >>= f) (p >>= g) :=
  ⟨first.mirrors.andThen fun a b same => (later ⟨a, b, same⟩).mirrors⟩

/-- The first one reads a token. -/
instance bindRead [first : Mirrors L true r p]
    [later : ∀ pair : Likes L.detail α, Mirrors L false (f pair.fst) (g pair.snd)] :
    Mirrors L true (r >>= f) (p >>= g) :=
  ⟨first.mirrors.bind fun a b same => (later ⟨a, b, same⟩).mirrors⟩

section

variable [Discrete α]

instance (priority := high) bindDiscrete [first : Mirrors L false r p]
    [later : ∀ value, Mirrors L moves (f value) (g value)] : Mirrors L moves (r >>= f) (p >>= g) :=
  ⟨first.mirrors.andThen fun a _ same => by
    obtain rfl := same.to_eq
    exact (later a).mirrors⟩

instance (priority := high) bindDiscreteRead [first : Mirrors L true r p]
    [later : ∀ value, Mirrors L false (f value) (g value)] : Mirrors L true (r >>= f) (p >>= g) :=
  ⟨first.mirrors.bind fun a _ same => by
    obtain rfl := same.to_eq
    exact (later a).mirrors⟩

end

section

variable {r : Routine (Option α)} {p : Parser (Option α)} {f : Option α → Routine β}
  {g : Option α → Parser β}

theorem both_of_same {a b : Option α} (same : Same L.detail a b) :
    MirrorsBy.Both (Same L.detail · ·) a b := by
  rcases same.options with ⟨rfl, rfl⟩ | ⟨pair, rfl, rfl⟩
  · trivial
  · exact pair.same

theorem same_of_both {a b : Option α} (both : MirrorsBy.Both (Same L.detail · ·) a b) :
    Same L.detail a b := by
  match a, b, both with
  | some _, some _, same => exact Same.map same fun _ => rfl
  | none, none, _ => exact Same.refl _

instance (priority := high) bindOption [first : Mirrors L false r p]
    [found : ∀ pair : Likes L.detail α, Mirrors L moves (f (some pair.fst)) (g (some pair.snd))]
    [missing : Mirrors L moves (f none) (g none)] : Mirrors L moves (r >>= f) (p >>= g) :=
  ⟨first.mirrors.andThen fun a b same => by
    match a, b, both_of_same same with
    | some a, some b, same => exact (found ⟨a, b, same⟩).mirrors
    | none, none, _ => exact missing.mirrors⟩

instance (priority := 10001) bindOptionDiscrete [Discrete α] [first : Mirrors L false r p]
    [found : ∀ value, Mirrors L moves (f (some value)) (g (some value))]
    [missing : Mirrors L moves (f none) (g none)] : Mirrors L moves (r >>= f) (p >>= g) :=
  ⟨first.mirrors.andThen fun a b same => by
    obtain rfl := same.to_eq
    cases a with
    | some value => exact (found value).mirrors
    | none => exact missing.mirrors⟩

end

section

variable {r : Routine (α × β)} {p : Parser (α × β)} {f : α × β → Routine γ} {g : α × β → Parser γ}

instance (priority := high) bindPair [first : Mirrors L false r p]
    [later : ∀ (a : Likes L.detail α) (b : Likes L.detail β),
      Mirrors L moves (f (a.fst, b.fst)) (g (a.snd, b.snd))] : Mirrors L moves (r >>= f) (p >>= g) :=
  ⟨first.mirrors.andThen fun x y same => (later ⟨x.1, y.1, ⟨congrArg Prod.fst same.eq⟩⟩
    ⟨x.2, y.2, ⟨congrArg Prod.snd same.eq⟩⟩).mirrors⟩

instance (priority := high) bindPairRead [first : Mirrors L true r p]
    [later : ∀ (a : Likes L.detail α) (b : Likes L.detail β),
      Mirrors L false (f (a.fst, b.fst)) (g (a.snd, b.snd))] : Mirrors L true (r >>= f) (p >>= g) :=
  ⟨first.mirrors.bind fun x y same => (later ⟨x.1, y.1, ⟨congrArg Prod.fst same.eq⟩⟩
    ⟨x.2, y.2, ⟨congrArg Prod.snd same.eq⟩⟩).mirrors⟩

instance (priority := 10001) bindPairDiscrete [Discrete β] [first : Mirrors L false r p]
    [later : ∀ (a : Likes L.detail α) (b : β), Mirrors L moves (f (a.fst, b)) (g (a.snd, b))] :
    Mirrors L moves (r >>= f) (p >>= g) :=
  ⟨first.mirrors.andThen fun (a, b) (x, y) same => by
    have equal : Same L.detail b y := ⟨congrArg Prod.snd same.eq⟩
    obtain rfl := equal.to_eq
    exact (later ⟨a, x, ⟨congrArg Prod.fst same.eq⟩⟩ b).mirrors⟩

instance (priority := 10002) bindDiscretePair [Discrete α] [Discrete β]
    [first : Mirrors L false r p] [later : ∀ a b, Mirrors L moves (f (a, b)) (g (a, b))] :
    Mirrors L moves (r >>= f) (p >>= g) :=
  ⟨first.mirrors.andThen fun (a, b) _ same => same.to_eq ▸ (later a b).mirrors⟩

end

theorem either_of_same {a b : α ⊕ β} (same : Same L.detail a b) :
    MirrorsBy.Either (Same L.detail · ·) (Same L.detail · ·) a b := by
  have eq := same.eq
  cases a <;> cases b
  · exact ⟨Sum.inl.inj eq⟩
  · cases eq
  · cases eq
  · exact ⟨Sum.inr.inj eq⟩

theorem andThen [Mirrors L false r p]
    (later : ∀ pair : Likes L.detail α, Mirrors L moves (f pair.fst) (g pair.snd)) :
    Mirrors L moves (r >>= f) (p >>= g) :=
  bind

theorem andThenSame [Discrete α] [Mirrors L false r p]
    (later : ∀ value, Mirrors L moves (f value) (g value)) : Mirrors L moves (r >>= f) (p >>= g) :=
  bindDiscrete

theorem andThenRead [Discrete α] [Mirrors L true r p]
    (later : ∀ value, Mirrors L false (f value) (g value)) : Mirrors L true (r >>= f) (p >>= g) :=
  bindDiscreteRead

theorem andThenSamePair [Discrete α] [Discrete β] {r : Routine (α × β)} {p : Parser (α × β)}
    {f : α × β → Routine γ} {g : α × β → Parser γ} [Mirrors L false r p]
    (later : ∀ a b, Mirrors L moves (f (a, b)) (g (a, b))) : Mirrors L moves (r >>= f) (p >>= g) :=
  bindDiscretePair

theorem byPlace {f : State → Routine α} {g : State → Parser α}
    (each : ∀ sights : Sights L, Mirrors L moves (f sights.fst) (g sights.snd)) :
    Mirrors L moves (here >>= f) (here >>= g) :=
  ⟨.bySight fun a b sees => (each ⟨a, b, sees⟩).mirrors⟩

instance bindHere {f : State → Routine α} {g : State → Parser α}
    [each : ∀ sights : Sights L, Mirrors L moves (f sights.fst) (g sights.snd)] :
    Mirrors L moves (here >>= f) (here >>= g) :=
  byPlace each

theorem byContext {f : Context → Routine α} {g : Context → Parser α}
    (each : ∀ context, Mirrors L moves (f context) (g context)) :
    Mirrors L moves (context >>= f) (context >>= g) :=
  ⟨.byContext fun context => (each context).mirrors⟩

instance bindContext {f : Context → Routine α} {g : Context → Parser α}
    [each : ∀ context, Mirrors L moves (f context) (g context)] :
    Mirrors L moves (context >>= f) (context >>= g) :=
  byContext each

instance map {f g : α → β} [inner : Mirrors L moves r p]
    [kept : ∀ pair : Likes L.detail α, Same L.detail (f pair.fst) (g pair.snd)] :
    Mirrors L moves (f <$> r) (g <$> p) :=
  ⟨inner.mirrors.map fun a b same => kept ⟨a, b, same⟩⟩

instance ite {chosen chosen' : Bool} {yes no : Routine α} {yes' no' : Parser α}
    [equal : Equal chosen chosen'] [first : Mirrors L moves yes yes']
    [second : Mirrors L moves no no'] :
    Mirrors L moves (if chosen = true then yes else no) (if chosen' = true then yes' else no') := by
  rw [equal.eq]
  split
  · exact first
  · exact second

theorem choose {chosen chosen' : Bool} {yes no : Routine α} {yes' no' : Parser α}
    [Equal chosen chosen'] (first : Mirrors L moves yes yes') (second : Mirrors L moves no no') :
    Mirrors L moves (if chosen = true then yes else no) (if chosen' = true then yes' else no') :=
  ite

instance iteProp {holds : Prop} [Decidable holds] {yes no : Routine α} {yes' no' : Parser α}
    [first : Mirrors L moves yes yes'] [second : Mirrors L moves no no'] :
    Mirrors L moves (if holds then yes else no) (if holds then yes' else no') := by
  split
  · exact first
  · exact second

instance pure {a b : α} [same : Same L.detail a b] :
    Mirrors L false (pure a : Routine α) (pure b) :=
  ⟨.pure same⟩

instance fail (expected : Expectation) :
    Mirrors L moves (fail expected : Routine α) (fail expected) :=
  ⟨.fail expected⟩

/-- Behind a failure nothing is run. -/
instance (priority := 10003) failThen {f : α → Routine β} {g : α → Parser β}
    (expected : Expectation) :
    Mirrors L moves (Parser.fail expected >>= f) (Parser.fail expected >>= g) :=
  ⟨fun session _ meets => ⟨meets.error expected, meets, .refl session⟩⟩

instance failAt (sights : Sights L) (expected : Expectation) (found : Finding) :
    Mirrors L moves (failWith ⟨sights.fst.current.location, expected, found⟩ : Routine α)
      (failWith ⟨sights.snd.current.location, expected, found⟩) :=
  ⟨.failWith ⟨rfl, rfl, by
    obtain ⟨cut, left, right⟩ := sights.sees.place
    exact ⟨cut.current, cut.current_mem, by rw [left.current], by rw [right.current]⟩⟩⟩

instance declareType (ident : String) :
    Mirrors L false (declareType ident : Routine Unit) (declareType ident) :=
  ⟨fun session state meets => (MirrorsBy.declareType ident session state meets).mono
    fun _ _ _ => Same.refl _⟩

instance declareTypes {idents others : List String} [equal : Equal idents others] :
    Mirrors L false (declareTypes idents : Routine Unit) (declareTypes others) := by
  rw [equal.eq]
  clear equal
  induction others with
  | nil => exact pure
  | cons ident rest ih =>
    exact andThenSame (f := fun _ => Parser.declareTypes rest)
      (g := fun _ => Parser.declareTypes rest) fun _ => ih

instance advance : Mirrors L false (advance : Routine Unit) advance :=
  ⟨fun session state meets => (MirrorsBy.advance session state meets).mono
    fun _ _ _ => Same.refl _⟩

instance advanceBy (count : Nat) :
    Mirrors L false (advanceBy count : Routine Unit) (advanceBy count) := by
  induction count with
  | zero => exact pure
  | succ count ih =>
    exact andThenSame (f := fun _ => Parser.advanceBy count)
      (g := fun _ => Parser.advanceBy count) fun _ => ih

theorem isAt_seen (mark : Punctuator) (first second : State) (sees : L.Sees first second) :
    first.isAt mark = second.isAt mark := by
  rw [State.isAt, sees.kind, State.isAt]

theorem isAtWord_seen (word : Keyword) (first second : State) (sees : L.Sees first second) :
    first.isAtWord word = second.isAtWord word := by
  rw [State.isAtWord, sees.kind, State.isAtWord]

theorem isAtIdent_seen (ident : String) (first second : State) (sees : L.Sees first second) :
    first.isAtIdent ident = second.isAtIdent ident := by
  rw [State.isAtIdent, sees.kind, State.isAtIdent]

theorem acceptIf {passes : State → Bool}
    (seen : ∀ first second, L.Sees first second → passes first = passes second) :
    Mirrors L false (acceptIf passes : Routine Bool) (acceptIf passes) :=
  ⟨fun session state meets => (MirrorsBy.acceptIf seen session state meets).mono
    fun _ _ same => same ▸ Same.refl _⟩

instance accept (mark : Punctuator) : Mirrors L false (accept mark : Routine Bool) (accept mark) :=
  acceptIf (isAt_seen mark)

instance acceptWord (word : Keyword) :
    Mirrors L false (acceptWord word : Routine Bool) (acceptWord word) :=
  acceptIf (isAtWord_seen word)

instance acceptIdent (ident : String) :
    Mirrors L false (acceptIdent ident : Routine Bool) (acceptIdent ident) :=
  acceptIf (isAtIdent_seen ident)

theorem acceptElse {yes no : Routine α} {yes' no' : Parser α} {mark : Punctuator}
    (there : Mirrors L false yes yes') (missing : Mirrors L true no no') :
    Mirrors L true (Parser.accept mark >>= fun found => if found = true then yes else no)
      (Parser.accept mark >>= fun found => if found = true then yes' else no') :=
  ⟨.acceptBranch (isAt_seen mark) (fun _ => State.inside_of_isAt) there.mirrors missing.mirrors⟩

instance (priority := high) acceptBranch {yes no : Routine α} {yes' no' : Parser α}
    (mark : Punctuator) [there : Mirrors L false yes yes'] [missing : Mirrors L true no no'] :
    Mirrors L true (Parser.accept mark >>= fun found => if found = true then yes else no)
      (Parser.accept mark >>= fun found => if found = true then yes' else no') :=
  acceptElse there missing

instance (priority := high) acceptWordBranch {yes no : Routine α} {yes' no' : Parser α}
    (word : Keyword) [there : Mirrors L false yes yes'] [missing : Mirrors L true no no'] :
    Mirrors L true (Parser.acceptWord word >>= fun found => if found = true then yes else no)
      (Parser.acceptWord word >>= fun found => if found = true then yes' else no') :=
  ⟨.acceptBranch (isAtWord_seen word) (fun _ => State.inside_of_isAtWord) there.mirrors
    missing.mirrors⟩

instance expect (mark : Punctuator) (purpose : String) :
    Mirrors L moves (expect mark purpose : Routine Unit) (expect mark purpose) := by
  refine anywhere ?_
  unfold Parser.expect
  infer_instance

instance expectWord (word : Keyword) (purpose : String) :
    Mirrors L moves (expectWord word purpose : Routine Unit) (expectWord word purpose) := by
  refine anywhere ?_
  unfold Parser.expectWord
  infer_instance

instance attempt [inner : Mirrors L false r p] :
    Mirrors L false (Parser.attempt r) (Parser.attempt p) :=
  ⟨fun session state meets => (inner.mirrors.attempt session state meets).mono
    fun _ _ => same_of_both⟩

instance lookahead [inner : Mirrors L false r p] :
    Mirrors L false (Parser.lookahead r) (Parser.lookahead p) :=
  ⟨fun session state meets => (inner.mirrors.lookahead session state meets).mono
    fun _ _ => same_of_both⟩

instance angleCloses {closes : Bool} [inner : Mirrors L moves r p] :
    Mirrors L moves (Parser.angleCloses closes r) (Parser.angleCloses closes p) :=
  ⟨inner.mirrors.angleCloses closes⟩

instance insideClass {ident other : String} [equal : Equal ident other]
    [inner : Mirrors L moves r p] :
    Mirrors L moves (Parser.insideClass ident r) (Parser.insideClass other p) :=
  ⟨equal.eq ▸ inner.mirrors.insideClass ident⟩

instance nested [inner : Mirrors L moves r p] :
    Mirrors L moves (Parser.nested r) (Parser.nested p) :=
  ⟨inner.mirrors.nested⟩

end Mirrors

/-- What reads the current token, which is not the end token. -/
theorem MirrorsAt.advanceThen {L : Likeness} [Viewed α] {session : Session} {state : State}
    {f : Unit → Routine α} {g : Unit → Parser α} (meets : L.Meets session state)
    (inside : state.atEnd = false) (later : Mirrors L false (f ()) (g ())) :
    MirrorsAt L session state true (Same L.detail · ·) (Parser.advance >>= f)
      (Parser.advance >>= g) :=
  (MirrorsAt.advance meets inside).bind fun _ _ _ => later.mirrors

theorem MirrorsAt.advanceByThen {L : Likeness} [Viewed α] {session : Session} {state : State}
    {f : Unit → Routine α} {g : Unit → Parser α} (meets : L.Meets session state)
    (inside : state.atEnd = false) (count : Nat) [later : Mirrors L false (f ()) (g ())] :
    MirrorsAt L session state true (Same L.detail · ·) (Parser.advanceBy (count + 1) >>= f)
      (Parser.advanceBy (count + 1) >>= g) := by
  show MirrorsAt L session state true _ (Parser.advance >>= fun _ => Parser.advanceBy count >>= f)
    (Parser.advance >>= fun _ => Parser.advanceBy count >>= g)
  have rest : Mirrors L false (Parser.advanceBy count >>= f) (Parser.advanceBy count >>= g) :=
    Mirrors.andThenSame fun _ => later
  exact .advanceThen meets inside rest

/-- What counts of the values of a symbol. -/
@[reducible] def Symbol.viewed : (symbol : Symbol) → Viewed symbol.Value
  | .declaration _ => inferInstanceAs (Viewed (Option Declaration))
  | .statement => inferInstanceAs (Viewed Statement)
  | .clause | .assignment | .binary _ | .cast | .unary => inferInstanceAs (Viewed Expr)
  | .specifiers _ => inferInstanceAs (Viewed ParsedSpecifiers)
  | .declarator _ => inferInstanceAs (Viewed Declarator)
  | .name _ => inferInstanceAs (Viewed Name)
  | .templateParameters => inferInstanceAs (Viewed (List (Tree .templateParameter)))

/-- The routines of a grammar mirror the parsers of another one with as much fuel. -/
class Paired (L : Likeness) (g : Grammar Routine) (h : Grammar Parser) : Prop where
  fuel : g.fuel = h.fuel
  mirrors (symbol : Symbol) : @Mirrors symbol.Value L false symbol.viewed (g.parse symbol) (h.parse symbol)

namespace Mirrors

variable {L : Likeness} {g : Grammar Routine} {h : Grammar Parser} [paired : Paired L g h]
  [Viewed α] [Viewed β] [Viewed γ]

include paired

theorem loopOf {step : α → Routine (α ⊕ β)} {step' : α → Parser (α ⊕ β)} {a b : α}
    (start : Same L.detail a b)
    (steps : ∀ a b, Same L.detail a b → Mirrors L false (step a) (step' b)) :
    Mirrors L false (g.loop step a) (h.loop step' b) := by
  unfold Grammar.loop
  rw [paired.fuel]
  refine ⟨MirrorsBy.iterate (fun a b same session state meets => ?_) _ a b start⟩
  exact ((steps a b same).mirrors session state meets).mono fun _ _ => either_of_same

instance loop {step : α → Routine (α ⊕ β)} {step' : α → Parser (α ⊕ β)} {a b : α}
    [start : Same L.detail a b]
    [steps : ∀ pair : Likes L.detail α, Mirrors L false (step pair.fst) (step' pair.snd)] :
    Mirrors L false (g.loop step a) (h.loop step' b) :=
  loopOf start fun a b same => steps ⟨a, b, same⟩

instance (priority := high) loopDiscrete [Discrete α] {step : α → Routine (α ⊕ β)}
    {step' : α → Parser (α ⊕ β)} {start : α}
    [steps : ∀ value, Mirrors L false (step value) (step' value)] :
    Mirrors L false (g.loop step start) (h.loop step' start) :=
  loopOf (.refl start) fun a _ same => same.to_eq ▸ steps a

instance (priority := high) loopPair {step : α × β → Routine ((α × β) ⊕ γ)}
    {step' : α × β → Parser ((α × β) ⊕ γ)} {a b : α × β} [start : Same L.detail a b]
    [steps : ∀ (a : Likes L.detail α) (b : Likes L.detail β),
      Mirrors L false (step (a.fst, b.fst)) (step' (a.snd, b.snd))] :
    Mirrors L false (g.loop step a) (h.loop step' b) :=
  loopOf start fun x y same => steps ⟨x.1, y.1, ⟨congrArg Prod.fst same.eq⟩⟩
    ⟨x.2, y.2, ⟨congrArg Prod.snd same.eq⟩⟩

theorem loopSamePair [Discrete α] [Discrete β] {step : α × β → Routine ((α × β) ⊕ γ)}
    {step' : α × β → Parser ((α × β) ⊕ γ)} {start : α × β}
    (steps : ∀ a b, Mirrors L false (step (a, b)) (step' (a, b))) :
    Mirrors L false (g.loop step start) (h.loop step' start) :=
  loopOf (.refl start) fun (a, b) _ same => same.to_eq ▸ steps a b

instance (priority := 10001) loopDiscretePair [Discrete α] [Discrete β]
    {step : α × β → Routine ((α × β) ⊕ γ)} {step' : α × β → Parser ((α × β) ⊕ γ)} {start : α × β}
    [steps : ∀ a b, Mirrors L false (step (a, b)) (step' (a, b))] :
    Mirrors L false (g.loop step start) (h.loop step' start) :=
  loopSamePair steps

end Mirrors

section

variable {L : Likeness} (sights : Sights L)

instance : Equal sights.fst.kind sights.snd.kind := ⟨sights.sees.kind⟩

instance (steps : Nat) : Equal (sights.fst.ahead steps) (sights.snd.ahead steps) :=
  ⟨sights.sees.ahead steps⟩

instance : Equal sights.fst.atEnd sights.snd.atEnd := ⟨sights.sees.atEnd⟩

instance (mark : Punctuator) : Equal (sights.fst.isAt mark) (sights.snd.isAt mark) :=
  ⟨Mirrors.isAt_seen mark _ _ sights.sees⟩

instance (word : Keyword) : Equal (sights.fst.isAtWord word) (sights.snd.isAtWord word) :=
  ⟨Mirrors.isAtWord_seen word _ _ sights.sees⟩

instance : Equal sights.fst.isAtIdentifier sights.snd.isAtIdentifier :=
  ⟨by rw [State.isAtIdentifier, sights.sees.kind, State.isAtIdentifier]⟩

instance (steps : Nat) (mark : Punctuator) :
    Equal (sights.fst.isAhead steps mark) (sights.snd.isAhead steps mark) :=
  ⟨by rw [State.isAhead, sights.sees.ahead, State.isAhead]⟩

instance (steps : Nat) (word : Keyword) :
    Equal (sights.fst.isAheadWord steps word) (sights.snd.isAheadWord steps word) :=
  ⟨by rw [State.isAheadWord, sights.sees.ahead, State.isAheadWord]⟩

end

instance {items others : List α} [equal : Equal items others] :
    Equal items.isEmpty others.isEmpty :=
  ⟨congrArg _ equal.eq⟩

instance {value other : Option α} [equal : Equal value other] : Equal value.toList other.toList :=
  ⟨congrArg _ equal.eq⟩

instance {value other : α} : Equal (some value).isSome (some other).isSome := ⟨rfl⟩

instance {value other : α} : Equal (some value).isNone (some other).isNone := ⟨rfl⟩

instance [BEq α] {value other bound : α} [equal : Equal value other] :
    Equal (value != bound) (other != bound) :=
  ⟨by rw [equal.eq]⟩

section

variable {a b x y : Bool} [first : Equal a x] [second : Equal b y]

include first

instance : Equal (!a) (!x) := ⟨by rw [first.eq]⟩

include second

instance : Equal (a && b) (x && y) := ⟨by rw [first.eq, second.eq]⟩

instance : Equal (a || b) (x || y) := ⟨by rw [first.eq, second.eq]⟩

end

end CppSyntax
