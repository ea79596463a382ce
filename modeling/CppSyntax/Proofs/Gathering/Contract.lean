import CppSyntax.Proofs.Gathering.Reading
import CppSyntax.Proofs.Guess.Keeping
import CppSyntax.Proofs.Account.Contract

/-!
Parsers that gather what they read. Such a parser turns pieces that have been gathered already into
those of its value, and says what is free at the ends of the stretch behind it. That a rule gathers is
found by instances once its parts do: they follow the parsers one after the other and then look for a
way to make the value of the pieces that are there.
-/

namespace CppSyntax

open CppSyntax.Parser

/-- Behind a trial it is not known whether anything has been read. -/
@[reducible] def Stretch.tried : Stretch → Stretch
  | .behind | .whole => .whole
  | .fresh | .inside => .fresh

instance {stretch : Stretch} : Stretch.Frees stretch stretch.tried := by
  cases stretch <;> infer_instance

instance {stretch : Stretch} : Stretch.Frees .fresh stretch.tried := by
  cases stretch <;> infer_instance

/-- Behind the parser the pieces of its value have been gathered, if the given ones have been before. -/
class GathersOf (after : α → Stretch) (pieces : α → List Piece) (stretch : Stretch)
    (given : List Piece) (p : Parser α) : Prop where
  gathered {context : Context} {start state reached : State} {front : List Piece} {value : α} :
    Gathered stretch context.depth start state (front ++ given) →
    p context state = .done value reached →
    Gathered (after value) context.depth start reached (front ++ pieces value)

/-- Behind any stretch the parser gathers in the same way, using the pieces that it takes. -/
class Gathers (taken : outParam (List Piece)) (out : outParam Stretch)
    (pieces : outParam (α → List Piece)) (p : Parser α) : Prop where
  behind (stretch : Stretch) [stretch.Joins out] :
    GathersOf (fun _ => stretch.join out) pieces stretch taken p

theorem Parser.done_of_speculate {p : Parser α} {context : Context} {state reached : State}
    {found : Except SyntaxError α}
    (answered : (speculate p : Parser _) context state = .done found reached) :
    (∃ error, found = .error error ∧ reached = state) ∨
      ∃ value, found = .ok value ∧ p context state = .done value reached := by
  rw [speculate_apply] at answered
  split at answered
  · cases answered
    exact .inr ⟨_, rfl, ‹_›⟩
  · cases answered
    exact .inl ⟨_, rfl, rfl⟩
  · cases answered

theorem Parser.done_of_nested {p : Parser α} {context : Context} {state reached : State} {value : α}
    (answered : (nested p : Parser α) context state = .done value reached) :
    context.depth < nestingLimit ∧
      p { context with depth := context.depth + 1 } state = .done value reached := by
  have answered : (if nestingLimit ≤ context.depth then Parser.fail (.phrase "nesting depth limit")
    else deeper p : Parser α) context state = .done value reached := answered
  split at answered
  · cases answered
  · rename_i low
    exact ⟨Nat.lt_of_not_le low, answered⟩

/-- A parser that takes nothing and leaves the comments at its ends free. -/
abbrev Collects [HasNodes α] (p : Parser α) : Prop := Gathers [] .fresh piecesIn p

/-- A parser that reads a token behind all items. -/
abbrev Finishes [HasNodes α] (p : Parser α) : Prop := Gathers [] .inside piecesIn p

/-- A parser that may read items first and last. -/
abbrev Rows [HasNodes α] (p : Parser α) : Prop := Gathers [] .whole piecesIn p

/-- A parser in a row of them. The rest of what is given is kept. -/
class First (stretch : Stretch) (given : List Piece) (reached : outParam Stretch)
    (rest : outParam (List Piece)) (pieces : outParam (α → List Piece)) (p : Parser α) : Prop where
  gathers : GathersOf (fun _ => reached) (fun value => rest ++ pieces value) stretch given p

/-- What is taken stands last among the given pieces. -/
class Gives (given taken : List Piece) (rest : outParam (List Piece)) : Prop where
  remade : Remade given (rest ++ taken)

namespace Gives

variable {given front taken : List Piece}

instance nothing : Gives given [] given := ⟨by simpa using .refl given⟩

instance last : Gives (front ++ taken) taken front := ⟨.refl _⟩

instance all : Gives taken taken [] := ⟨.refl _⟩

instance both {more rest : List Piece} [gives : Gives given taken rest] :
    Gives (given ++ more) (taken ++ more) rest :=
  ⟨by simpa using gives.remade.inFront more⟩

instance (priority := low) unneeded [makes : Makes [] ([] ++ taken)] : Gives given taken given :=
  ⟨by simpa using makes.remade.behind given⟩

section

variable {rest : List Piece} [HasNodes α] [HasNodes β] {a : α} {b : β}

instance single [gives : Gives given (piecesIn a) rest] : Gives given (piecesIn [a]) rest :=
  ⟨by simpa using gives.remade⟩

instance someHeader {tree : Tree c} [gives : Gives given (headersIn tree) rest] :
    Gives given (headersIn (some tree)) rest :=
  gives

instance second [makes : Makes [] ([] ++ piecesIn a)] [gives : Gives given (piecesIn b) rest] :
    Gives given (piecesIn (a, b)) rest :=
  ⟨by simpa using gives.remade.trans ((makes.remade.inFront (piecesIn b)).behind rest)⟩

end

end Gives

namespace GathersOf

variable {after : β → Stretch} {pieces : β → List Piece} {stretch : Stretch} {given : List Piece}
  {p : Parser α} {f : α → Parser β} {q : Parser β}

theorem andThen {reached : α → Stretch} {found : α → List Piece}
    (first : GathersOf reached found stretch given p)
    (later : ∀ value, GathersOf after pieces (reached value) (found value) (f value)) :
    GathersOf after pieces stretch given (p >>= f) := by
  refine ⟨fun before answered => ?_⟩
  obtain ⟨value, state, one, rest⟩ := Parser.done_of_bind answered
  exact (later value).gathered (first.gathered before one) rest

theorem answer {value : β} (frees : stretch.Frees (after value)) (makes : Makes given (pieces value)) :
    GathersOf after pieces stretch given (Pure.pure value : Parser β) := by
  refine ⟨fun before answered => ?_⟩
  cases answered
  exact (before.remade (makes.remade.behind _)).freed frees

/-- Other pieces are made of those of the value. -/
theorem remade {reached : α → Stretch} {found : α → List Piece} {g : α → β}
    (first : GathersOf reached found stretch given p)
    (frees : ∀ value, (reached value).Frees (after (g value)))
    (makes : ∀ value, Makes (found value) (pieces (g value))) :
    GathersOf after pieces stretch given (g <$> p) :=
  andThen first fun value => answer (frees value) (makes value)

theorem changed {reached : β → Stretch} {found : β → List Piece}
    (first : GathersOf reached found stretch given q)
    (frees : ∀ value, (reached value).Frees (after value))
    (makes : ∀ value, Makes (found value) (pieces value)) :
    GathersOf after pieces stretch given q :=
  ⟨fun before answered =>
    ((first.gathered before answered).remade ((makes _).remade.behind _)).freed (frees _)⟩

/-- Other pieces are made of the given ones first. -/
theorem makeFirst {others : List Piece} (remade : Remade given others)
    (gathers : GathersOf after pieces stretch others q) : GathersOf after pieces stretch given q :=
  ⟨fun before answered => gathers.gathered (before.remade (remade.behind _)) answered⟩

theorem failed (never : ∀ context state value reached, q context state ≠ .done value reached) :
    GathersOf after pieces stretch given q :=
  ⟨fun _ answered => absurd answered (never _ _ _ _)⟩

theorem alone (gathers : GathersOf after pieces .fresh [] q) {context : Context}
    {state reached : State} {value : β} (ended : state.Ended)
    (answered : q context state = .done value reached) :
    Gathered (after value) context.depth state reached (pieces value) :=
  have nothing : Gathered .fresh context.depth state state ([] ++ []) := .nothing ended
  gathers.gathered nothing answered

end GathersOf

namespace Gathers

variable {out : Stretch} {pieces : α → List Piece} {p : Parser α}

/-- What is gathered from a place on is gathered behind anything else. -/
theorem ofAlone (alone : ∀ {context : Context} {state reached : State} {value : α}, state.Ended →
    p context state = .done value reached → Gathered out context.depth state reached (pieces value)) :
    Gathers [] out pieces p := by
  refine ⟨fun stretch joins => ⟨fun {context start state reached front value} before answered => ?_⟩⟩
  have whole := before.followed (alone before.ended answered) joins
  rwa [List.append_nil] at whole

theorem alone (gathers : Gathers [] out pieces p) {context : Context} {state reached : State}
    {value : α} (ended : state.Ended) (answered : p context state = .done value reached) :
    Gathered out context.depth state reached (pieces value) := by
  have nothing : Gathered .fresh context.depth state state ([] ++ []) := .nothing ended
  cases out with
  | fresh | inside | behind => exact (gathers.behind .fresh).gathered nothing answered
  | whole => exact (gathers.behind .whole).gathered nothing.withFree answered

/-- A rule of its own, which starts with all comments free or none of them. -/
theorem closed (inner : Stretch) [frees : Stretch.Frees .fresh inner]
    (gathers : GathersOf (fun _ => out) pieces inner [] p) : Gathers [] out pieces p :=
  ofAlone fun {context state _ _} ended answered => by
    have nothing : Gathered .fresh context.depth state state ([] ++ []) := .nothing ended
    exact gathers.gathered (nothing.freed frees) answered

theorem kept {taken : List Piece}
    (gathers : ∀ stretch, GathersOf (fun _ => stretch) pieces stretch taken p) :
    Gathers taken .fresh pieces p :=
  ⟨fun stretch _ => gathers stretch⟩

end Gathers

namespace First

variable {stretch out reached : Stretch} {given taken rest : List Piece} {found : α → List Piece}
  {p : Parser α}

instance named [gathers : Gathers taken out found p] [joins : stretch.Joins out]
    [gives : Gives given taken rest] : First stretch given (stretch.join out) rest found p := by
  refine ⟨⟨fun {context start state _ front value} before answered => ?_⟩⟩
  have before := before.remade (gives.remade.behind front)
  rw [← List.append_assoc] at before ⊢
  exact (gathers.behind stretch).gathered before answered

/-- Several parsers in a row that leave the ends of the stretch as they are. -/
instance (priority := low) block [HasNodes α]
    [gathers : GathersOf (fun _ => stretch) piecesIn stretch [] p] :
    First stretch given stretch given piecesIn p := by
  refine ⟨⟨fun {context start state _ front value} before answered => ?_⟩⟩
  rw [← List.append_nil (front ++ given)] at before
  rw [← List.append_assoc]
  exact gathers.gathered before answered

end First

namespace GathersOf

variable {after : β → Stretch} {pieces : β → List Piece} {stretch reached out : Stretch}
  {given rest taken : List Piece} {p : Parser α} {f : α → Parser β} {q : Parser β}

theorem next {found : α → List Piece} [first : First stretch given reached rest found p]
    (later : ∀ value, GathersOf after pieces reached (rest ++ found value) (f value)) :
    GathersOf after pieces stretch given (p >>= f) :=
  andThen first.gathers later

instance bind {found : α → List Piece} [First stretch given reached rest found p]
    [later : ∀ value, GathersOf after pieces reached (rest ++ found value) (f value)] :
    GathersOf after pieces stretch given (p >>= f) :=
  next later

section

variable [HasNodes α] [HasNodes γ]

theorem nextPlain [Treeless α] [first : First stretch given reached rest piecesIn p]
    (later : ∀ value, GathersOf after pieces reached rest (f value)) :
    GathersOf after pieces stretch given (p >>= f) :=
  next fun value => by simpa using later value

instance (priority := 10000) bindPlain [Treeless α] [First stretch given reached rest piecesIn p]
    [later : ∀ value, GathersOf after pieces reached rest (f value)] :
    GathersOf after pieces stretch given (p >>= f) :=
  nextPlain later

instance (priority := 10004) bindPure {value : α} [later : GathersOf after pieces stretch given (f value)] :
    
    GathersOf after pieces stretch given (Pure.pure value >>= f) :=
  later

instance (priority := 10004) bindMap {g : γ → α} {p : Parser γ}
    [later : GathersOf after pieces stretch given (p >>= fun value => f (g value))] :
    GathersOf after pieces stretch given (g <$> p >>= f) :=
  Parser.map_bind g p f ▸ later

instance (priority := 10001) bindOption {p : Parser (Option α)} {f : Option α → Parser β}
    [first : First stretch given reached rest piecesIn p]
    [found : ∀ value, GathersOf after pieces reached (rest ++ piecesIn value) (f (some value))]
    [missing : GathersOf after pieces reached rest (f none)] :
    GathersOf after pieces stretch given (p >>= f) :=
  andThen first.gathers fun
    | none => by simpa using missing
    | some value => by simpa using found value

instance (priority := 10001) bindPair {p : Parser (α × γ)} {f : α × γ → Parser β}
    [first : First stretch given reached rest piecesIn p]
    [later : ∀ a c, GathersOf after pieces reached (rest ++ piecesIn a ++ piecesIn c) (f (a, c))] :
    GathersOf after pieces stretch given (p >>= f) :=
  andThen first.gathers fun (a, c) => by simpa using later a c

instance (priority := 10002) bindTriple [HasNodes δ] {p : Parser (α × γ × δ)}
    {f : α × γ × δ → Parser β} [first : First stretch given reached rest piecesIn p]
    [later : ∀ a c d, GathersOf after pieces reached
      (rest ++ piecesIn a ++ piecesIn c ++ piecesIn d) (f (a, c, d))] :
    GathersOf after pieces stretch given (p >>= f) :=
  andThen first.gathers fun (a, c, d) => by simpa using later a c d

end

/-- The header of a statement may be missing. -/
instance (priority := 10001) bindHeader {p : Parser (Option (Tree c))} {f : Option (Tree c) → Parser β}
    [first : First stretch given reached rest headersIn p]
    [found : ∀ value, GathersOf after pieces reached (rest ++ headersIn value) (f (some value))]
    [missing : GathersOf after pieces reached rest (f none)] :
    GathersOf after pieces stretch given (p >>= f) :=
  andThen first.gathers fun
    | none => by simpa using missing
    | some value => by simpa using found value

instance pure {value : β} [frees : stretch.Frees (after value)]
    [makes : Makes given ([] ++ pieces value)] :
    GathersOf after pieces stretch given (Pure.pure value : Parser β) :=
  answer frees makes

instance (priority := low) tail {found : β → List Piece} [gathers : Gathers taken out found q]
    [joins : stretch.Joins out] [gives : Gives given taken rest]
    [frees : ∀ value, (stretch.join out).Frees (after value)]
    [makes : ∀ value, Makes (rest ++ found value) ([] ++ pieces value)] :
    GathersOf after pieces stretch given q :=
  changed (First.named (p := q)).gathers frees makes

instance map {found : α → List Piece} {g : α → β} [first : First stretch given reached rest found p]
    [frees : ∀ value, reached.Frees (after (g value))]
    [makes : ∀ value, Makes (rest ++ found value) ([] ++ pieces (g value))] :
    GathersOf after pieces stretch given (g <$> p) :=
  remade first.gathers frees makes

instance mapPair [HasNodes α] [HasNodes γ] {p : Parser (α × γ)} {g : α × γ → β}
    [first : First stretch given reached rest piecesIn p]
    [frees : ∀ value, reached.Frees (after (g value))]
    [makes : ∀ a c, Makes (rest ++ piecesIn a ++ piecesIn c) ([] ++ pieces (g (a, c)))] :
    GathersOf after pieces stretch given (g <$> p) :=
  remade first.gathers frees fun (a, c) => by
    have made := (makes a c).remade
    exact ⟨by simpa using made⟩

theorem whether {condition : Prop} [Decidable condition] {other : Parser β}
    (yes : GathersOf after pieces stretch given q) (no : GathersOf after pieces stretch given other) :
    GathersOf after pieces stretch given (if condition then q else other) := by
  split <;> assumption

instance branch {condition : Prop} [Decidable condition] {other : Parser β}
    [yes : GathersOf after pieces stretch given q] [no : GathersOf after pieces stretch given other] :
    GathersOf after pieces stretch given (if condition then q else other) :=
  whether yes no

instance (priority := high) chosen [Decidable (true = true)] {other : Parser β}
    [yes : GathersOf after pieces stretch given q] :
    GathersOf after pieces stretch given (if true = true then q else other) := by
  rwa [if_pos rfl]

instance (priority := high) passedBy [Decidable (false = true)] {other : Parser β}
    [no : GathersOf after pieces stretch given other] :
    GathersOf after pieces stretch given (if false = true then q else other) := by
  rwa [if_neg nofun]

theorem byPlace {f : State → Parser β}
    (each : ∀ state, GathersOf after pieces stretch given (f state)) :
    GathersOf after pieces stretch given (Parser.here >>= f) :=
  ⟨fun {_ _ state _ _ _} before answered => (each state).gathered before answered⟩

instance (priority := 10003) here {f : State → Parser β}
    [each : ∀ state, GathersOf after pieces stretch given (f state)] :
    GathersOf after pieces stretch given (Parser.here >>= f) :=
  byPlace each

instance failWith {error : SyntaxError} :
    GathersOf after pieces stretch given (Parser.failWith error : Parser β) :=
  failed fun _ _ _ _ => nofun

instance fail {expected : Expectation} :
    GathersOf after pieces stretch given (Parser.fail expected : Parser β) :=
  failed fun _ _ _ _ => nofun

theorem surrounded (change : Context → Context) (level : ∀ context, (change context).depth = context.depth)
    (inner : GathersOf after pieces stretch given q) :
    GathersOf after pieces stretch given (Parser.surrounded change q) := by
  refine ⟨fun {context _ _ _ _ _} before answered => ?_⟩
  rw [← level context] at before ⊢
  exact inner.gathered before answered

instance (priority := 10003) failWithThen {error : SyntaxError} :
    GathersOf after pieces stretch given (Parser.failWith error >>= f) :=
  failed fun _ _ _ _ => nofun

instance (priority := 10003) failThen {expected : Expectation} :
    GathersOf after pieces stretch given (Parser.fail expected >>= f) :=
  failed fun _ _ _ _ => nofun

/-- A token is read if it passes. -/
theorem acceptIf {passes : State → Bool} {f : Bool → Parser β}
    (inside : ∀ state, passes state = true → state.atEnd = false)
    (yes : GathersOf after pieces stretch.read given (f true))
    (no : GathersOf after pieces stretch given (f false)) :
    GathersOf after pieces stretch given (Parser.acceptIf passes >>= f) := by
  refine ⟨fun {_ _ state _ _ _} before answered => ?_⟩
  rw [Parser.acceptIf_then] at answered
  split at answered
  · rename_i passed
    exact yes.gathered (before.token (inside state passed)) answered
  · exact no.gathered before answered

theorem accept {mark : Punctuator} {f : Bool → Parser β}
    (yes : GathersOf after pieces stretch.read given (f true))
    (no : GathersOf after pieces stretch given (f false)) :
    GathersOf after pieces stretch given (Parser.accept mark >>= f) :=
  acceptIf (fun _ => State.inside_of_isAt) yes no

theorem acceptWord {word : Keyword} {f : Bool → Parser β}
    (yes : GathersOf after pieces stretch.read given (f true))
    (no : GathersOf after pieces stretch given (f false)) :
    GathersOf after pieces stretch given (Parser.acceptWord word >>= f) :=
  acceptIf (fun _ => State.inside_of_isAtWord) yes no

section

variable [inner : GathersOf after pieces stretch given q]

include inner

instance angleCloses {closes : Bool} :
    GathersOf after pieces stretch given (Parser.angleCloses closes q : Parser β) :=
  surrounded _ (fun _ => rfl) inner

instance insideClass {ident : String} :
    GathersOf after pieces stretch given (Parser.insideClass ident q : Parser β) :=
  surrounded _ (fun _ => rfl) inner

end

end GathersOf

namespace Gathers

variable {out : Stretch} {taken : List Piece} {pieces : α → List Piece} {p : Parser α}

section

variable [inner : Gathers taken out pieces p]

include inner

instance angleCloses {closes : Bool} :
    Gathers taken out pieces (Parser.angleCloses closes p : Parser α) :=
  ⟨fun stretch _ => have := inner.behind stretch; .angleCloses⟩

instance insideClass {ident : String} :
    Gathers taken out pieces (Parser.insideClass ident p : Parser α) :=
  ⟨fun stretch _ => have := inner.behind stretch; .insideClass⟩

end

instance map [HasNodes β] {g : α → β} [inner : Gathers taken out pieces p]
    [makes : ∀ value, Makes (pieces value) ([] ++ piecesIn (g value))] :
    Gathers taken out piecesIn (g <$> p) :=
  ⟨fun stretch _ => .remade (inner.behind stretch) (fun _ => ⟨.inl rfl⟩) makes⟩

/-- Several parsers in a row that leave the ends of the stretch as they are. -/
instance (priority := low) angleClosesBlock [HasNodes α] {closes : Bool}
    [block : GathersOf (fun _ => .fresh) piecesIn .fresh [] p] :
    Collects (Parser.angleCloses closes p : Parser α) :=
  .closed .fresh .angleCloses

/-- Several parsers in a row among which there are items. -/
instance (priority := 50) angleClosesRow [HasNodes α] {closes : Bool}
    [row : GathersOf (fun _ => .whole) piecesIn .whole [] p] :
    Rows (Parser.angleCloses closes p : Parser α) :=
  .closed .whole .angleCloses

/-- What is read one level deeper. -/
theorem oneDeeper (inner : Gathers [] out pieces p) :
    Gathers [] out pieces (Parser.nested p : Parser α) :=
  ofAlone fun ended answered =>
    have ⟨low, answered⟩ := Parser.done_of_nested answered
    (inner.alone ended answered).deeper low

instance nested [inner : Gathers [] out pieces p] : Gathers [] out pieces (Parser.nested p : Parser α) :=
  oneDeeper inner

instance context : Collects (Parser.context : Parser Context) :=
  .kept fun _ => ⟨fun before answered => by cases answered; simpa using before⟩

instance advance : Collects (Parser.advance : Parser Unit) :=
  .kept fun _ => ⟨fun before answered => by cases answered; simpa using before.next⟩

instance advanceBy {count : Nat} : Collects (Parser.advanceBy count : Parser Unit) := by
  induction count with
  | zero =>
    exact .kept fun stretch =>
      inferInstanceAs (GathersOf (fun _ => stretch) piecesIn stretch [] (Pure.pure () : Parser Unit))
  | succ count ih =>
    unfold Parser.advanceBy
    exact .closed .fresh inferInstance

instance acceptIf {passes : State → Bool} : Collects (Parser.acceptIf passes : Parser Bool) := by
  refine .kept fun _ => ⟨fun {context start state _ _ _} before answered => ?_⟩
  rw [Parser.acceptIf_apply] at answered
  split at answered
  · cases answered
    simpa using before.next
  · cases answered
    simpa using before

instance accept {mark : Punctuator} : Collects (Parser.accept mark : Parser Bool) := acceptIf

instance acceptWord {word : Keyword} : Collects (Parser.acceptWord word : Parser Bool) := acceptIf

instance acceptIdent {ident : String} : Collects (Parser.acceptIdent ident : Parser Bool) := acceptIf

instance expect {mark : Punctuator} {purpose : String} :
    Finishes (Parser.expect mark purpose : Parser Unit) := by
  unfold Parser.expect
  refine .closed .fresh (.accept ?_ .fail)
  show GathersOf _ _ .inside [] (Pure.pure () : Parser Unit)
  infer_instance

instance expectWord {word : Keyword} {purpose : String} :
    Finishes (Parser.expectWord word purpose : Parser Unit) := by
  unfold Parser.expectWord
  refine .closed .fresh (.acceptWord ?_ .fail)
  show GathersOf _ _ .inside [] (Pure.pure () : Parser Unit)
  infer_instance

instance optionalIdentifier : Collects (Parser.optionalIdentifier : Parser (Option String)) := by
  unfold Parser.optionalIdentifier
  refine .closed .fresh (.byPlace fun state => ?_)
  split <;> infer_instance

instance expectIdentifier {purpose : String} :
    Finishes (Parser.expectIdentifier purpose : Parser String) := by
  refine ofAlone fun {context state reached ident} ended answered => ?_
  obtain ⟨known, rfl⟩ := Parser.done_of_expectIdentifier answered
  have nothing : Gathered .fresh context.depth state state [] := .nothing ended
  simpa using nothing.token (State.inside_of_kind known nofun)

instance trailingComment : Collects (Parser.trailingComment : Parser (Option String)) := by
  unfold Parser.trailingComment
  exact .closed .fresh inferInstance

instance declareType {ident : String} : Collects (Parser.declareType ident : Parser Unit) := by
  refine .kept fun _ => ⟨fun before answered => ?_⟩
  rw [Parser.declareType_apply] at answered
  split at answered
  · cases answered
    simpa using before
  · cases answered
    simpa using before.declared ident

instance declareTypes {idents : List String} :
    Collects (Parser.declareTypes idents : Parser Unit) := by
  unfold Parser.declareTypes
  induction idents with
  | nil =>
    exact .kept fun stretch =>
      inferInstanceAs (GathersOf (fun _ => stretch) piecesIn stretch [] (Pure.pure () : Parser Unit))
  | cons ident idents ih =>
    exact .closed .fresh (inferInstanceAs (GathersOf _ _ _ _
      (Parser.declareType ident >>= fun _ => idents.forM Parser.declareType : Parser Unit)))

/-- What is tried may be there or not. -/
theorem attempted (tried : Gathers [] out pieces p) :
    Gathers [] out.tried (fun found => found.elim [] pieces) (Parser.attempt p : Parser (Option α)) := by
  refine ofAlone fun ended answered => ?_
  rcases Parser.done_of_attempt answered with ⟨rfl, rfl⟩ | ⟨value, rfl, reply⟩
  · exact (Gathered.nothing ended).withFree
  · exact (tried.alone ended reply).withFree

instance attempt [HasNodes α] [tried : Gathers [] out piecesIn p] :
    Gathers [] out.tried piecesIn (Parser.attempt p : Parser (Option α)) := by
  have same : (fun found : Option α => found.elim [] piecesIn) = piecesIn := by
    funext found
    cases found <;> simp
  exact same ▸ attempted tried

instance attemptHeader {p : Parser (Tree c)} [tried : Gathers [] out headersIn p] :
    Gathers [] out.tried headersIn (Parser.attempt p : Parser (Option (Tree c))) := by
  have same : (fun found : Option (Tree c) => found.elim [] headersIn) = headersIn := by
    funext found
    cases found <;> rfl
  exact same ▸ attempted tried

/-- Looking ahead reads nothing, whatever the parser answers. -/
instance lookahead [HasNodes α] [Treeless α] : Collects (Parser.lookahead p : Parser (Option α)) := by
  refine .kept fun _ => ⟨fun {context start state _ _ _} before answered => ?_⟩
  rw [Parser.lookahead_apply] at answered
  cases reply : p context state with
  | done | failed =>
    rw [reply] at answered
    cases answered
    simpa using before
  | exhausted =>
    rw [reply] at answered
    cases answered

end Gathers

section

variable {after : β → Stretch} {pieces : β → List Piece} {stretch out : Stretch}
  {given : List Piece} {found : α → List Piece} {p : Parser α}

/-- Where the trial fails, what is given is kept. -/
theorem GathersOf.attemptThen {f : Option α → Parser β}
    (tried : GathersOf (fun _ => out) found stretch given p)
    (read : ∀ value, GathersOf after pieces out (found value) (f (some value)))
    (failed : GathersOf after pieces stretch given (f none)) :
    GathersOf after pieces stretch given (Parser.attempt p >>= f) := by
  refine ⟨fun before answered => ?_⟩
  obtain ⟨result, state, one, rest⟩ := Parser.done_of_bind answered
  rcases Parser.done_of_attempt one with ⟨rfl, rfl⟩ | ⟨value, rfl, reply⟩
  · exact failed.gathered before rest
  · exact (read value).gathered (tried.gathered before reply) rest

theorem GathersOf.speculateThen {f : Except SyntaxError α → Parser β}
    (tried : GathersOf (fun _ => out) found stretch given p)
    (read : ∀ value, GathersOf after pieces out (found value) (f (.ok value)))
    (failed : ∀ error, GathersOf after pieces stretch given (f (.error error))) :
    GathersOf after pieces stretch given (Parser.speculate p >>= f) := by
  refine ⟨fun before answered => ?_⟩
  obtain ⟨result, state, one, rest⟩ := Parser.done_of_bind answered
  rcases Parser.done_of_speculate one with ⟨error, rfl, rfl⟩ | ⟨value, rfl, reply⟩
  · exact (failed error).gathered before rest
  · exact (read value).gathered (tried.gathered before reply) rest

end

/-- The parser gathers if it starts at this place. -/
structure GathersAt (place : State) (after : α → Stretch) (pieces : α → List Piece)
    (stretch : Stretch) (given : List Piece) (p : Parser α) : Prop where
  gathered {context : Context} {start reached : State} {front : List Piece} {value : α} :
    Gathered stretch context.depth start place (front ++ given) →
    p context place = .done value reached →
    Gathered (after value) context.depth start reached (front ++ pieces value)

section

variable {place : State} {after : β → Stretch} {pieces : β → List Piece} {stretch : Stretch}
  {given : List Piece}

theorem GathersOf.byKnownPlace {f : State → Parser β}
    (each : ∀ place, GathersAt place after pieces stretch given (f place)) :
    GathersOf after pieces stretch given (Parser.here >>= f) :=
  ⟨fun {_ _ state _ _ _} before answered => (each state).gathered before answered⟩

namespace GathersAt

theorem here {f : State → Parser β} (there : GathersAt place after pieces stretch given (f place)) :
    GathersAt place after pieces stretch given (Parser.here >>= f) :=
  ⟨there.gathered⟩

theorem anywhere {q : Parser β} (gathers : GathersOf after pieces stretch given q) :
    GathersAt place after pieces stretch given q :=
  ⟨gathers.gathered⟩

/-- The current token is read if it is not the end token. -/
theorem advance {f : Unit → Parser β} (inside : place.atEnd = false)
    (later : GathersOf after pieces stretch.read given (f ())) :
    GathersAt place after pieces stretch given (Parser.advance >>= f) :=
  ⟨fun before answered => later.gathered (before.token inside) answered⟩

theorem advanceBy {count : Nat} {f : Unit → Parser β} (inside : place.atEnd = false)
    (later : GathersOf after pieces stretch.read given (f ())) :
    GathersAt place after pieces stretch given (Parser.advanceBy (count + 1) >>= f) := by
  unfold Parser.advanceBy
  rw [Parser.bind_assoc]
  exact .advance inside (.nextPlain fun _ => later)

end GathersAt

end

/-- What a step of a loop turns the pieces into that it started with, the loop does in the end. -/
theorem GathersOf.iterated {held : α → List Piece} {pieces : β → List Piece} {stretch : Stretch}
    {step : α → Parser (α ⊕ β)}
    (one : ∀ value, GathersOf (fun _ => stretch) (Sum.elim held pieces) stretch (held value) (step value))
    (fuel : Nat) (start : α) :
    GathersOf (fun _ => stretch) pieces stretch (held start) (Parser.iterate step fuel start) := by
  induction fuel generalizing start with
  | zero => exact .failed fun _ _ _ _ => nofun
  | succ fuel ih =>
    refine .andThen (one start) fun
      | .inl again => ih again
      | .inr result => ?_
    exact .answer inferInstance ⟨.refl _⟩

/-- A loop of which every step reads a token. -/
theorem GathersOf.advancing [HasNodes α] [HasNodes β] {g : Grammar Parser} (step : α → Parser (α ⊕ β))
    [one : ∀ value, Gathers (piecesIn value) .inside piecesIn (step value)] (stretch : Stretch)
    (start : α) :
    GathersOf (fun _ => stretch.read) piecesIn stretch (piecesIn start) (g.loop step start) := by
  unfold Grammar.loop
  generalize g.fuel = fuel
  induction fuel generalizing stretch start with
  | zero => exact .failed fun _ _ _ _ => nofun
  | succ fuel ih =>
    have twice : stretch.read.read = stretch.read := by cases stretch <;> rfl
    refine .andThen ((one start).behind stretch) fun
      | .inl again => twice ▸ ih stretch.read again
      | .inr result => .answer ⟨.inl rfl⟩ ⟨.refl _⟩

/-- A loop that starts with what it is given last. -/
instance First.loop [HasNodes α] [HasNodes β] {g : Grammar Parser} {step : α → Parser (α ⊕ β)}
    {stretch : Stretch} {given rest : List Piece} {start : α}
    [one : ∀ value, GathersOf (fun _ => stretch) piecesIn stretch (piecesIn value) (step value)]
    [gives : Gives given (piecesIn start) rest] :
    First stretch given stretch rest piecesIn (g.loop step start) := by
  have same : (Sum.elim piecesIn piecesIn : α ⊕ β → List Piece) = piecesIn := by
    funext result
    cases result <;> rfl
  have all : GathersOf (fun _ => stretch) piecesIn stretch (piecesIn start) (g.loop step start) :=
    .iterated (fun value => same ▸ one value) g.fuel start
  refine ⟨⟨fun {context start state _ front value} before answered => ?_⟩⟩
  have before := before.remade (gives.remade.behind front)
  rw [← List.append_assoc] at before ⊢
  exact all.gathered before answered

theorem GathersOf.looped [HasNodes α] [HasNodes β] {g : Grammar Parser} {step : α → Parser (α ⊕ β)}
    {after : β → Stretch} {pieces : β → List Piece} {stretch : Stretch} {given rest : List Piece}
    {start : α} [Gives given (piecesIn start) rest] [frees : ∀ value, stretch.Frees (after value)]
    [makes : ∀ value, Makes (rest ++ piecesIn value) ([] ++ pieces value)]
    (one : ∀ value, GathersOf (fun _ => stretch) piecesIn stretch (piecesIn value) (step value)) :
    GathersOf after pieces stretch given (g.loop step start) :=
  .changed First.loop.gathers frees makes

instance GathersOf.loop [HasNodes α] [HasNodes β] {g : Grammar Parser} {step : α → Parser (α ⊕ β)}
    {after : β → Stretch} {pieces : β → List Piece} {stretch : Stretch} {given rest : List Piece}
    {start : α} [Gives given (piecesIn start) rest] [∀ value, stretch.Frees (after value)]
    [∀ value, Makes (rest ++ piecesIn value) ([] ++ pieces value)]
    [one : ∀ value, GathersOf (fun _ => stretch) piecesIn stretch (piecesIn value) (step value)] :
    GathersOf after pieces stretch given (g.loop step start) :=
  .looped one

end CppSyntax
