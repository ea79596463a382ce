import CppSyntax.Proofs.Parsing.Outcome
import CppSyntax.Proofs.WellFormed.Value

/-!
Parsers that answer with nothing but well-formed trees. What is proved of the ways to put parsers
together is found by instances, so that a rule is settled once its parts are. Where a value is well
formed only because of the place where it was read, the rule is settled by conditions on the places
before and behind it.
-/

namespace CppSyntax

open CppSyntax.Parser

/-- From the places before it the parser answers, if it answers with a value, with one that meets the
condition at the place behind it. -/
def Parser.Ensures (p : Parser α) (before : State → Prop) (after : α → State → Prop) : Prop :=
  ∀ context state, before state → ∀ value reached,
    p context state = .done value reached → after value reached

/-- What a step of a loop ensures: that it can go on, or the result. -/
@[reducible] def Parser.Progress (invariant : α → State → Prop) (after : β → State → Prop) :
    α ⊕ β → State → Prop
  | .inl again, state => invariant again state
  | .inr result, state => after result state

/-- Wherever the parser answers with a value, that holds well-formed trees only. -/
class Yields [HasNodes α] (p : Parser α) : Prop where
  ensures : p.Ensures (fun _ => True) fun value _ => Fine value

namespace Parser.Ensures

variable {before : State → Prop} {middle : α → State → Prop} {after : β → State → Prop}
  {p : Parser α} {f : α → Parser β} {q : Parser β}

theorem bind (first : p.Ensures before middle)
    (later : ∀ value, (f value).Ensures (middle value) after) : (p >>= f).Ensures before after := by
  intro context state known value reached answered
  have answered : Parser.bind p f context state = .done value reached := answered
  unfold Parser.bind at answered
  cases reply : p context state with
  | done found stopped =>
    rw [reply] at answered
    exact later found context stopped (first context state known found stopped reply) value reached
      answered
  | failed | exhausted =>
    rw [reply] at answered
    cases answered

theorem mono {before' : State → Prop} {after' : β → State → Prop} (ensures : q.Ensures before' after')
    (stronger : ∀ state, before state → before' state)
    (weaker : ∀ value state, after' value state → after value state) : q.Ensures before after :=
  fun context state known value reached answered =>
    weaker value reached (ensures context state (stronger state known) value reached answered)

/-- What is known of the place only by what is known anyway. -/
theorem assume {known : Prop} (each : known → q.Ensures (fun _ => True) after) :
    q.Ensures (fun _ => known) after :=
  fun context state met => each met context state trivial

theorem assumeAnd {known : Prop} (each : known → q.Ensures before after) :
    q.Ensures (fun state => known ∧ before state) after :=
  fun context state met => each met.1 context state met.2

theorem anywhere (ensures : q.Ensures (fun _ => True) after) : q.Ensures before after :=
  fun context state _ => ensures context state trivial

theorem anything : q.Ensures before fun _ _ => True := fun _ _ _ _ _ _ => trivial

/-- Two conditions that are both ensured. -/
theorem and {other : β → State → Prop} (first : q.Ensures before after)
    (second : q.Ensures before other) :
    q.Ensures before fun value state => after value state ∧ other value state :=
  fun context state known value reached answered =>
    ⟨first context state known value reached answered,
      second context state known value reached answered⟩

theorem pure {value : β} (met : ∀ state, before state → after value state) :
    (Pure.pure value : Parser β).Ensures before after := by
  rintro context state known _ _ ⟨⟩
  exact met state known

theorem fail (expected : Expectation) : (Parser.fail expected : Parser β).Ensures before after := by
  rintro _ _ _ _ _ ⟨⟩

theorem failWith (error : SyntaxError) : (Parser.failWith error : Parser β).Ensures before after := by
  rintro _ _ _ _ _ ⟨⟩

/-- What follows a failure does not matter. -/
theorem failFirst (expected : Expectation) :
    ((Parser.fail expected : Parser α) >>= f).Ensures before after :=
  .bind (.fail expected : Ensures _ _ fun _ _ => False) fun _ _ _ impossible => impossible.elim

theorem failWithFirst (error : SyntaxError) :
    ((Parser.failWith error : Parser α) >>= f).Ensures before after :=
  .bind (.failWith error : Ensures _ _ fun _ _ => False) fun _ _ _ impossible => impossible.elim

theorem here {f : State → Parser β}
    (each : ∀ place, before place → (f place).Ensures (· = place) after) :
    (Parser.here >>= f).Ensures before after :=
  fun context state known value reached answered =>
    each state known context state rfl value reached answered

theorem advance {after : Unit → State → Prop} (met : ∀ state, before state → after () state.next) :
    (Parser.advance : Parser Unit).Ensures before after := by
  rintro context state known _ _ ⟨⟩
  exact met state known

theorem acceptIf {passes : State → Bool} {after : Bool → State → Prop}
    (there : ∀ state, before state → passes state = true → after true state.next)
    (missing : ∀ state, before state → passes state = false → after false state) :
    (Parser.acceptIf passes : Parser Bool).Ensures before after := by
  intro context state known value reached answered
  rw [Parser.acceptIf_apply] at answered
  cases passed : passes state with
  | true =>
    rw [passed] at answered
    cases answered
    exact there state known passed
  | false =>
    rw [passed] at answered
    cases answered
    exact missing state known passed

/-- What is tried and found. -/
theorem attempted {after : α → State → Prop} (ensures : p.Ensures before after) :
    (Parser.attempt p : Parser (Option α)).Ensures before fun found state =>
      ∀ value ∈ found, after value state := by
  intro context state known found reached answered
  rw [Parser.attempt_apply] at answered
  cases reply : p context state with
  | done value stopped =>
    rw [reply] at answered
    cases answered
    rintro _ ⟨⟩
    exact ensures context state known value reached reply
  | failed error stopped =>
    rw [reply] at answered
    cases answered
    nofun
  | exhausted =>
    rw [reply] at answered
    cases answered

/-- What is tried and cannot fail is found. -/
theorem attempt (lasts : ∀ context state, before state → (p context state).Gives True fun _ _ => True) :
    (Parser.attempt p : Parser (Option α)).Ensures before fun found _ => found.isSome := by
  intro context state known found reached answered
  rw [Parser.attempt_apply] at answered
  have gives := lasts context state known
  cases reply : p context state with
  | done value stopped =>
    rw [reply] at answered
    cases answered
    rfl
  | failed error stopped =>
    rw [reply] at gives
    exact (gives trivial).elim
  | exhausted =>
    rw [reply] at answered
    cases answered

/-- A loop whose first step starts at other places than the later ones. -/
theorem iterateFrom {step : α → Parser (α ⊕ β)} {invariant : α → State → Prop}
    (one : ∀ start, (step start).Ensures (invariant start) (Progress invariant after))
    {start : α} (first : (step start).Ensures before (Progress invariant after)) (fuel : Nat) :
    (Parser.iterate step fuel start).Ensures before after := by
  induction fuel generalizing start before with
  | zero => exact fun _ _ _ _ _ => nofun
  | succ fuel ih =>
    refine bind first fun result => ?_
    cases result with
    | inl again => exact ih (one again)
    | inr result => exact .pure fun _ met => met

theorem iterate {step : α → Parser (α ⊕ β)} (invariant : α → State → Prop)
    (one : ∀ start, (step start).Ensures (invariant start) (Progress invariant after))
    (fuel : Nat) (start : α) : (Parser.iterate step fuel start).Ensures (invariant start) after :=
  iterateFrom one (one start) fuel

theorem deeper (ensures : q.Ensures before after) :
    (Parser.deeper q : Parser β).Ensures before after :=
  fun _ state known value reached answered => ensures _ state known value reached answered

theorem angleCloses {closes : Bool} (ensures : q.Ensures before after) :
    (Parser.angleCloses closes q : Parser β).Ensures before after :=
  fun _ state known value reached answered => ensures _ state known value reached answered

theorem nested (ensures : q.Ensures before after) :
    (Parser.nested q : Parser β).Ensures before after := by
  intro context state known value reached answered
  have answered : (if nestingLimit ≤ context.depth then Parser.fail (.phrase "nesting depth limit")
    else Parser.deeper q : Parser β) context state = .done value reached := answered
  split at answered
  · cases answered
  · exact ensures.deeper context state known value reached answered

theorem branch {condition : Prop} [Decidable condition] {other : Parser β}
    (yes : condition → q.Ensures before after) (no : ¬ condition → other.Ensures before after) :
    (if condition then q else other).Ensures before after := by
  split
  · exact yes ‹_›
  · exact no ‹_›

/-- A mark decides how to go on. -/
theorem whetherAt {mark : Punctuator} {yes no : Parser β} (there : yes.Ensures (fun _ => True) after)
    (missing : no.Ensures (fun state => before state ∧ state.isAt mark = false) after) :
    (Parser.accept mark >>= fun found => if found then yes else no : Parser β).Ensures before
      after := by
  have accepted : (Parser.accept mark : Parser Bool).Ensures before fun found state =>
      found = false → before state ∧ state.isAt mark = false :=
    .acceptIf (fun _ _ _ => nofun) fun _ known other _ => ⟨known, other⟩
  refine .bind accepted fun found => .branch (fun _ => ?_) fun notFound => ?_
  · exact there.mono (fun _ _ => trivial) fun _ _ => id
  · exact missing.mono (fun _ known => known (Bool.eq_false_iff.mpr notFound)) fun _ _ => id

end Parser.Ensures

namespace Yields

variable [HasNodes α] [HasNodes β] [HasNodes γ] {p : Parser α} {f : α → Parser β} {q : Parser β}

/-- What a parser yields from the places of a kind. -/
theorem from_places (before : State → Prop) [yields : Yields p] :
    p.Ensures before fun value _ => Fine value :=
  yields.ensures.mono (fun _ _ => trivial) fun _ _ => id

theorem andThen (first : Yields p) (later : ∀ good : Good α, Yields (f good.value)) :
    Yields (p >>= f) :=
  ⟨.bind first.ensures fun value context state fine =>
    (later ⟨value, fine⟩).ensures context state trivial⟩

instance bind [first : Yields p] [later : ∀ good : Good α, Yields (f good.value)] :
    Yields (p >>= f) :=
  first.andThen later

theorem whether {p : Parser (Option α)} {f : Option α → Parser β} (first : Yields p)
    (found : ∀ good : Good α, Yields (f (some good.value))) (missing : Yields (f none)) :
    Yields (p >>= f) := by
  refine ⟨.bind first.ensures fun value context state fine => ?_⟩
  cases value with
  | none => exact missing.ensures context state trivial
  | some value => exact (found ⟨value, Fine.some_iff.mp fine⟩).ensures context state trivial

instance (priority := high) bindOption {p : Parser (Option α)} {f : Option α → Parser β}
    [first : Yields p] [found : ∀ good : Good α, Yields (f (some good.value))]
    [missing : Yields (f none)] : Yields (p >>= f) :=
  first.whether found missing

instance (priority := high) bindPair {p : Parser (α × β)} {f : α × β → Parser γ}
    [first : Yields p] [later : ∀ (a : Good α) (b : Good β), Yields (f (a.value, b.value))] :
    Yields (p >>= f) := by
  refine first.andThen fun ⟨(a, b), fine⟩ => ?_
  obtain ⟨fineA, fineB⟩ := Fine.pair_iff.mp fine
  exact later ⟨a, fineA⟩ ⟨b, fineB⟩

instance (priority := high) bindTriple [HasNodes δ] {p : Parser (α × β × γ)}
    {f : α × β × γ → Parser δ} [first : Yields p]
    [later : ∀ (a : Good α) (b : Good β) (c : Good γ), Yields (f (a.value, b.value, c.value))] :
    Yields (p >>= f) := by
  refine first.andThen fun ⟨(a, b, c), fine⟩ => ?_
  obtain ⟨fineA, fineRest⟩ := Fine.pair_iff.mp fine
  obtain ⟨fineB, fineC⟩ := Fine.pair_iff.mp fineRest
  exact later ⟨a, fineA⟩ ⟨b, fineB⟩ ⟨c, fineC⟩

instance map {g : α → β} [first : Yields p] [kept : ∀ good : Good α, Fine (g good.value)] :
    Yields (g <$> p) :=
  ⟨.bind first.ensures fun value context state fine => by
    rintro _ _ ⟨⟩
    exact kept ⟨value, fine⟩⟩

instance pure {value : α} [fine : Fine value] : Yields (Pure.pure value : Parser α) :=
  ⟨.pure fun _ _ => fine⟩

instance fail (expected : Expectation) : Yields (Parser.fail expected : Parser α) := ⟨.fail expected⟩

instance (priority := high) failFirst (expected : Expectation) :
    Yields ((Parser.fail expected : Parser α) >>= f) :=
  ⟨.failFirst expected⟩

instance failWith (error : SyntaxError) : Yields (Parser.failWith error : Parser α) :=
  ⟨.failWith error⟩

instance branch {condition : Prop} [Decidable condition] {other : Parser β} [yes : Yields q]
    [no : Yields other] : Yields (if condition then q else other) :=
  ⟨.branch (fun _ => yes.ensures) fun _ => no.ensures⟩

instance (priority := low) treeless [Treeless α] : Yields p :=
  ⟨fun _ _ _ _ _ _ => inferInstance⟩

section

variable [yields : Yields p]

include yields

instance speculate : Yields (Parser.speculate p : Parser (Except SyntaxError α)) := by
  refine ⟨fun context state _ value reached answered => ?_⟩
  rw [Parser.speculate_apply] at answered
  cases reply : p context state with
  | done found stopped =>
    rw [reply] at answered
    cases answered
    exact Fine.ok_iff.mpr (yields.ensures context state trivial found reached reply)
  | failed error stopped =>
    rw [reply] at answered
    cases answered
    exact ⟨nofun⟩
  | exhausted =>
    rw [reply] at answered
    cases answered

instance attempt : Yields (Parser.attempt p : Parser (Option α)) := by
  refine ⟨fun context state _ value reached answered => ?_⟩
  rw [Parser.attempt_apply] at answered
  cases reply : p context state with
  | done found stopped =>
    rw [reply] at answered
    cases answered
    exact Fine.some_iff.mpr (yields.ensures context state trivial found reached reply)
  | failed error stopped =>
    rw [reply] at answered
    cases answered
    infer_instance
  | exhausted =>
    rw [reply] at answered
    cases answered

instance angleCloses {closes : Bool} : Yields (Parser.angleCloses closes p : Parser α) :=
  ⟨.angleCloses yields.ensures⟩

instance insideClass {ident : String} : Yields (Parser.insideClass ident p : Parser α) :=
  ⟨fun _ state known value reached answered => yields.ensures _ state known value reached answered⟩

instance nested : Yields (Parser.nested p : Parser α) := ⟨.nested yields.ensures⟩

end

/-- A loop keeps to well-formed trees when each step does. -/
instance iterate {step : α → Parser (α ⊕ β)} [one : ∀ good : Good α, Yields (step good.value)]
    {fuel : Nat} {start : α} [fine : Fine start] : Yields (Parser.iterate step fuel start) := by
  have each (value : α) : (step value).Ensures (fun _ => Fine value)
      (Progress (fun again _ => Fine again) fun result _ => Fine result) := by
    intro context state fine result reached answered
    have fine := (one ⟨value, fine⟩).ensures context state trivial result reached answered
    cases result with
    | inl again => exact ⟨fine.sound⟩
    | inr result => exact ⟨fine.sound⟩
  exact ⟨(Ensures.iterate (fun value _ => Fine value) each fuel start).mono (fun _ _ => fine) fun _ _ => id⟩

instance loop {g : Grammar Parser} {step : α → Parser (α ⊕ β)}
    [∀ good : Good α, Yields (step good.value)] {start : α} [Fine start] :
    Yields (g.loop step start) :=
  iterate

end Yields

end CppSyntax
