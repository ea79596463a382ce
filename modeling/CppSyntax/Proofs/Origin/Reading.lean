import CppSyntax.Proofs.Origin.Grammar.Statement
import CppSyntax.Proofs.Account.TypeNames
import CppSyntax.Proofs.Lexing.Kinds

/-!
Every name that is known behind a unit was known before or is counted by the unit, unless types stand
apart somewhere in its text. The grammar introduces what becomes known by induction on the depth of its
derivation.
-/

set_option synthInstance.maxSize 4096

namespace CppSyntax

open CppSyntax.Parser

namespace Grammar

/-- Every rule introduces what becomes known if the symbols it uses do. -/
theorem rule_introducing {g : Grammar Parser} [g.Introducing] (symbol : Symbol) :
    symbol.Introducing (g.rule symbol) := by
  cases symbol with
  | declaration scope => exact (inferInstance : Introduces [] (g.declarationRule scope))
  | statement => exact (inferInstance : Introduces [] g.statementRule)
  | clause => exact (inferInstance : Introduces [] g.clauseRule)
  | assignment => exact (inferInstance : Introduces [] g.assignmentRule)
  | binary level => exact (inferInstance : Introduces [] (g.binaryRule level))
  | cast => exact (inferInstance : Introduces [] g.castRule)
  | unary => exact (inferInstance : Introduces [] g.unaryRule)
  | specifiers scope => exact (inferInstance : Introduces [] (g.specifiersRule scope))
  | declarator mode => exact (inferInstance : IntroducesFor Tree.coreNames [] (g.declaratorRule mode))
  | name inExpression => exact (inferInstance : Introduces [] (g.nameRule inExpression))
  | templateParameters => exact (inferInstance : Introduces [] g.templateParametersRule)

/-- A derivation of any depth introduces what becomes known. -/
instance derive_introducing (fuel depth : Nat) : Introducing ⟨fuel, derive fuel depth⟩ := by
  induction depth with
  | zero =>
    refine ⟨fun symbol => ?_⟩
    cases symbol <;> exact ⟨fun _ _ _ => trivial⟩
  | succ depth ih => exact ⟨rule_introducing⟩

instance ofFuel_introducing (fuel : Nat) : Introducing (ofFuel fuel) := derive_introducing fuel fuel

instance {g : Grammar Parser} [g.Introducing] : Introduces [] g.translationUnit := by
  unfold Grammar.translationUnit
  infer_instance

end Grammar

theorem State.start_typeNames (known : List String) (tokens : List Token) :
    (State.start known tokens).typeNames = known := by
  cases tokens <;> rfl

theorem State.start_clear {tokens : List Token} (known : List String)
    (looked : TokenKind.AllLookedAt (tokens.map Token.kind)) : (State.start known tokens).Clear := by
  cases tokens with
  | nil => exact .singleton _
  | cons first following => exact looked

/-- A reader of a unit in which no types stand apart knows nothing but what it knew and what the unit
introduces. -/
theorem Reader.translationUnit_introduced {start reached : State} {unit : TranslationUnit}
    (clear : start.Clear) (read : Reader.translationUnit start = (.ok unit, reached)) :
    reached.typeNames ⊆ start.typeNames ++ unit.typeNames := by
  have introduces : Introduces [] (Grammar.translationUnit (.ofFuel (Reader.fuel start)) : Parser _) :=
    inferInstance
  have introduced := introduces.introduced .top start clear
  unfold Reader.translationUnit Reader.run at read
  cases reply : (Grammar.translationUnit (.ofFuel (Reader.fuel start)) : Parser _) .top start with
  | done value place =>
    rw [reply] at read introduced
    cases read
    have names := introduced.2.1
    rwa [namesIn_tree] at names
  | failed | exhausted =>
    rw [reply] at read
    cases read

namespace Session

theorem fresh_state (known : List String) (tokens : List Token) :
    (fresh known tokens).state = .start known tokens := by
  cases tokens <;> rfl

/-- Every name that the session knows behind a unit is given beforehand or counted by the unit, if no
types stand apart in the text. -/
theorem take_introducesKnown {source : String} {known : List String} {session after : Session}
    {kinds : List TokenKind} {unit : TranslationUnit} (lexed : Token.kindsOf source = some kinds)
    (looked : TokenKind.AllLookedAt kinds) (opened : ofSource source known = .ok session)
    (read : session.take .translationUnit = (.ok unit, after)) :
    ∀ ident ∈ after.known, ident ∈ known ∨ ident ∈ unit.knownTypes := by
  have idle := idle_of_source opened
  obtain ⟨tokens, found, rfl⟩ := Token.kindsOf_eq_some.mp lexed
  unfold ofSource at opened
  rw [found] at opened
  cases opened
  -- The session answers as a reader before the first token, and both know the same names afterwards.
  obtain ⟨same, again, _⟩ :=
    idle.take_meets .translationUnit (Likeness.exact_meets_state idle.stands)
  rw [read, fresh_state] at same again
  have introduced := Reader.translationUnit_introduced (State.start_clear _ looked)
    (Prod.ext same.symm rfl)
  rw [State.start_typeNames] at introduced
  intro ident member
  rcases List.mem_append.mp (introduced ((again.known ident).mp member)) with before | inUnit
  · rcases List.mem_append.mp before with library | given
    · exact .inr (List.mem_append_left _ library)
    · exact .inl given
  · exact .inr (List.mem_append_right _ inUnit)

/-- Types are introduced within template parameters, the parameters and the result of a lambda, its body,
and a typedef. -/
theorem take_introducesKnown_lambda :
    let source := "template <class P> auto f = [] (enum E e) -> union U *{ sizeof(struct S { }); }; typedef int I;"
    ∃ kinds session unit after, Token.kindsOf source = some kinds ∧ TokenKind.AllLookedAt kinds ∧
      ofSource source ["T"] = .ok session ∧ session.take .translationUnit = (.ok unit, after) ∧
      ∀ ident ∈ after.known, ident ∈ ["T"] ∨ ident ∈ unit.knownTypes := by
  intro source
  have lexed : ((Token.kindsOf source).any fun kinds => decide (TokenKind.AllLookedAt kinds)) = true := by
    decide +kernel
  have read : ((ofSource source ["T"]).toOption.bind fun session =>
      (session.take .translationUnit).1.toOption).isSome = true := by
    decide +kernel
  obtain ⟨kinds, found, looked⟩ := (Option.any_eq_true _ _).mp lexed
  obtain ⟨unit, answered⟩ := Option.isSome_iff_exists.mp read
  obtain ⟨session, started, reading⟩ := Option.bind_eq_some_iff.mp answered
  have opened := toOption_eq_some.mp started
  have taken : session.take .translationUnit = (.ok unit, _) := Prod.ext (toOption_eq_some.mp reading) rfl
  exact ⟨kinds, session, unit, _, found, of_decide_eq_true looked, opened, taken,
    take_introducesKnown found (of_decide_eq_true looked) opened taken⟩

/-- A unit does not count the type names in the exception specification of a lambda, which the session
knows. -/
theorem take_knowsMore : ¬ ∀ (source : String) (session after : Session) (unit : TranslationUnit),
    ofSource source [] = .ok session → session.take .translationUnit = (.ok unit, after) →
      ∀ ident ∈ after.known, ident ∈ unit.knownTypes := by
  intro collected
  have lost : ((ofSource "auto f = [] () noexcept(sizeof(struct S)) { };" []).toOption.bind fun session =>
      (session.take .translationUnit).1.toOption.map fun unit =>
        ((session.take .translationUnit).2.known.contains "S", unit.knownTypes.contains "S")) =
      some (true, false) := by
    decide +kernel
  obtain ⟨session, found, reading⟩ := Option.bind_eq_some_iff.mp lost
  obtain ⟨unit, answered, names⟩ := Option.map_eq_some_iff.mp reading
  obtain ⟨knows, missing⟩ := Prod.mk.inj names
  have taken : session.take .translationUnit = (.ok unit, _) := Prod.ext (toOption_eq_some.mp answered) rfl
  have counted : "S" ∈ unit.knownTypes :=
    collected _ session _ unit (toOption_eq_some.mp found) taken "S" (List.contains_iff_mem.mp knows)
  rw [← List.contains_iff_mem, missing] at counted
  exact Bool.false_ne_true counted

end Session

end CppSyntax
