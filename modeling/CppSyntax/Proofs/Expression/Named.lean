import CppSyntax.Proofs.Expression.Appended
import CppSyntax.Proofs.Expression.Reading
import CppSyntax.Proofs.Guess.Grammar.Expression
import CppSyntax.Proofs.Parsing.Names

/-!
Guesses that fail, and the names that stay alone because of it. Template arguments are not read where they
may not be closed ahead, and parentheses open no cast unless a type reaches to where they are closed and an
operand stands behind them.
-/

namespace CppSyntax

open CppSyntax.Parser Grammar

variable {context : Context} {glyphs rest : List Glyph} {opening closing next : Glyph}

/-- A parser that gives a value from no such place. -/
theorem Parser.Refuses.never {p : Parser α}
    (none : ∀ state : State, state.glyphs = glyphs → ∀ value reached,
      p context state ≠ .done value reached) : p.Refuses context glyphs := by
  intro state known
  cases reply : p context state with
  | done value reached => exact absurd reply (none state known value reached)
  | failed => exact id
  | exhausted => trivial

/-- In an expression no template arguments are read that may not be closed ahead. -/
theorem fittingTemplateArguments_refuses {g : Grammar Parser} (derived : g.IsDerived)
    (ordinary : Ordinary glyphs) (shut : argumentsEnd 0 glyphs = false) :
    (g.fittingTemplateArguments true).Refuses context glyphs := by
  refine .never fun state known found reached answered => ?_
  subst known
  obtain ⟨less, inner, greater, whole, opens, closes, passes, fits⟩ :=
    fittingTemplateArguments_passes derived.tidy ordinary answered
  rw [whole, argumentsEnd_token (by rw [opens]; rfl) (by rw [opens]; rfl) (by rw [opens]; rfl)] at shut
  -- What was read was closed by a `>`, and only `>=` behind it could have hidden that from the scan.
  have behind := passes.argumentsEnd_eq rfl shut
  rw [argumentsEnd_greater closes] at behind
  have assigns : reached.kind = .punctuator .greaterEq := by
    simpa [State.glyphs, State.tokens, Token.glyph, State.kind] using behind
  have follows := fits rfl
  rw [assigns] at follows
  cases follows

/-- An identifier in an expression is read as a name of its own if no template arguments that follow it
may be closed. -/
theorem nameInExpression_reads {g : Grammar Parser} {ident : String} {joint : Bool} {sure : Prop}
    (ordinary : Ordinary rest)
    (shut : rest.head?.map Glyph.kind = some (.punctuator .less) → argumentsEnd 0 rest = false)
    (derived : g.IsDerived) :
    g.nameInExpression.Reads context sure (⟨.identifier ident, joint⟩ :: rest)
      (· = .simpleName ident) rest := by
  obtain ⟨next, tail, rfl⟩ := List.exists_cons_of_ne_nil ordinary.ne_nil
  refine name_reads_refusing (fun inner innerDerived less => ?_) (fun state known => ?_) derived
  · exact fittingTemplateArguments_refuses innerDerived ordinary (shut (congrArg some less))
  · rw [State.isAt_ordinary (known ▸ ordinary) rfl rfl, Bool.false_and]

/-- A cast is read as far as its type reaches, and an operand stands behind it. -/
theorem castHead_passes {g : Grammar Parser} {state reached : State} {found : TypeId}
    (derived : g.IsDerived) (ordinary : Ordinary (opening :: glyphs))
    (known : state.glyphs = opening :: glyphs)
    (answered : g.castHead context state = .done found reached) :
    ∃ closing certain, closing.kind = .punctuator .rightParen ∧
      Passes .type 0 glyphs 0 (closing :: reached.glyphs) ∧
      reached.kind.followsCast certain = true := by
  obtain ⟨_, _, opened, answered⟩ := done_of_bind answered
  obtain ⟨opens, rfl⟩ := done_of_expect opened
  obtain ⟨⟨_, certain⟩, place, typed, answered⟩ := done_of_bind answered
  obtain ⟨_, _, closed, answered⟩ := done_of_bind answered
  obtain ⟨closes, rfl⟩ := done_of_expect closed
  have goesOn : opening.kind.isStop = false := by
    rw [← State.kind_of_glyphs known, opens]
    rfl
  have inner : Ordinary glyphs := ordinary.tail goesOn
  have inside : state.next.glyphs = glyphs :=
    State.glyphs_next known inner.ne_nil (TokenKind.ne_end_of_goesOn goesOn)
  have passes := certainTypeId_tidy derived.tidy state.next (inside ▸ inner) _ _ typed
  have back := State.glyphs_ordinary (passes.ordinary (inside ▸ inner)) (by rw [closes]; rfl)
  have looked : (if place.next.kind.followsCast certain then _ else
      fail (.phrase "cast operand") : Parser TypeId) context place.next = .done found reached :=
    answered
  split at looked
  · rename_i follows
    cases looked
    exact ⟨_, certain, closes, inside ▸ back ▸ passes, follows⟩
  · cases looked

/-- A parenthesis opens no cast if a type does not reach to where it is closed. -/
theorem NoCast.of_leavesType (ordinary : Ordinary (opening :: glyphs))
    (leaves : leavesType 0 glyphs = true) : NoCast (opening :: glyphs) := by
  refine fun g derived context => .never fun state known found reached answered => ?_
  obtain ⟨closing, _, closes, passes, _⟩ := castHead_passes derived ordinary known answered
  have behind := passes.leavesType_eq rfl leaves
  have stops : leavesType 0 (closing :: reached.glyphs) = false :=
    lookOutside_closed (by rw [closes]; rfl)
  rw [stops] at behind
  cases behind

/-- A parenthesis opens no cast if `<` stands behind where it is closed. -/
theorem NoCast.of_less (ordinary : Ordinary (opening :: glyphs)) (less : next.kind = .punctuator .less)
    (ends : bracketEnd 0 glyphs = closing :: next :: rest) : NoCast (opening :: glyphs) := by
  refine fun g derived context => .never fun state known found reached answered => ?_
  obtain ⟨_, certain, closes, passes, follows⟩ := castHead_passes derived ordinary known answered
  have behind := passes.bracketEnd_eq
  rw [ends, show bracketEnd 0 (_ :: reached.glyphs) = _ from
    lookOutside_closed (by rw [closes]; rfl)] at behind
  have kind : reached.kind = .punctuator .less :=
    (State.kind_of_glyphs (List.cons.inj behind).2.symm).trans less
  rw [kind] at follows
  cases certain <;> cases follows

/-- A `<` here compares: what follows it can be no template arguments. -/
def Compares (glyphs : List Glyph) : Prop :=
  glyphs.head?.map Glyph.kind = some (.punctuator .less) → argumentsEnd 0 glyphs = false

/-- The mark before the name of a member. -/
def memberMark (arrow : Bool) : Punctuator := if arrow then .arrow else .dot

section

variable {arrow joint named : Bool} {ident : String} {rest : List Glyph}

theorem Ordinary.member (later : Ordinary rest) :
    Ordinary (⟨.punctuator (memberMark arrow), joint⟩ :: ⟨.identifier ident, named⟩ :: rest) := by
  have name : Ordinary (⟨.identifier ident, named⟩ :: rest) := .token rfl nofun later
  cases arrow <;> exact .token rfl nofun name

theorem argumentsEnd_member :
    argumentsEnd 0 (⟨.punctuator (memberMark arrow), joint⟩ :: ⟨.identifier ident, named⟩ :: rest) =
      argumentsEnd 0 rest := by
  have name : argumentsEnd 0 (⟨.identifier ident, named⟩ :: rest) = argumentsEnd 0 rest :=
    argumentsEnd_token rfl rfl rfl
  cases arrow <;> exact (argumentsEnd_token rfl rfl rfl).trans name

theorem greaterAhead_member :
    greaterAhead 0 (⟨.punctuator (memberMark arrow), joint⟩ :: ⟨.identifier ident, named⟩ :: rest) =
      greaterAhead 0 rest := by
  have name : greaterAhead 0 (⟨.identifier ident, named⟩ :: rest) = greaterAhead 0 rest :=
    greaterAhead_token rfl rfl (by simp) rfl
  cases arrow <;> exact (greaterAhead_token rfl rfl (by simp [memberMark]) rfl).trans name

theorem leavesType_member (compares : Compares rest) (leaves : leavesType 0 rest = true) :
    leavesType 0 (⟨.punctuator (memberMark arrow), joint⟩ :: ⟨.identifier ident, named⟩ :: rest) =
      true := by
  have name : leavesType 0 (⟨.identifier ident, named⟩ :: rest) = true :=
    (leavesType_token rfl rfl rfl compares).trans leaves
  cases arrow with
  | false => exact leavesType_other rfl rfl rfl
  | true => exact (leavesType_token rfl rfl rfl fun less => by cases less).trans name

end

namespace ReadsAs

variable {level nest : Nat} {glyphs rest : List Glyph} {object : Expr} {ident : String}
  {joint named : Bool}

theorem name (ordinary : Ordinary rest) (compares : Compares rest) :
    ReadsAs level 0 (.nameExpression (.simpleName ident)) (⟨.identifier ident, joint⟩ :: rest)
      rest := by
  refine ofPostfixed ordinary.ne_nil
    ⟨[⟨.identifier ident, joint⟩], rfl, .token rfl rfl nofun nofun .nil⟩ ⟨_, _, rfl, .inl rfl⟩
    (postfixed_of_primary ?_)
  intro g derived sure context room
  refine .byPlace fun state known => ?_
  rw [State.kind_of_glyphs known]
  refine (nameInExpression_reads ordinary compares derived).andThen (.byPlace fun state known => ?_)
  rw [State.isAt_ordinary (known ▸ ordinary) rfl rfl]
  exact .pure rfl

theorem member (arrow : Bool) (tight : Precedence.postfixed ≤ level)
    (reads : ReadsAs level nest object glyphs
      (⟨.punctuator (memberMark arrow), joint⟩ :: ⟨.identifier ident, named⟩ :: rest))
    (ordinary : Ordinary rest) (compares : Compares rest) :
    ReadsAs Precedence.postfixed nest (.member object arrow (.simpleName ident)) glyphs rest := by
  refine appended tight reads ordinary.ne_nil
    ⟨[⟨.punctuator (memberMark arrow), joint⟩, ⟨.identifier ident, named⟩], rfl, ?_⟩
    fun g derived sure context room => ?_
  · cases arrow <;> exact .token rfl rfl nofun nofun (.token rfl rfl nofun nofun .nil)
  · refine .byPlace fun state known => ?_
    rw [State.kind_of_glyphs known]
    have target {arrow : Bool} : (do
        advance
        return .inl (.member object arrow (← g.nameInExpression)) : Parser (Expr ⊕ Expr)).Reads
          context sure
        (⟨.punctuator (memberMark arrow), joint⟩ :: ⟨.identifier ident, named⟩ :: rest)
        (· = .inl (.member object arrow (.simpleName ident))) rest :=
      (Reads.advance (List.cons_ne_nil _ _) (by simp)).bind fun _ _ =>
        (nameInExpression_reads ordinary compares derived).andThen (.pure rfl)
    cases arrow <;> exact target

end ReadsAs

end CppSyntax
