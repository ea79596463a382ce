import CppSyntax.Proofs.Account.Grammar.Statement
import CppSyntax.Proofs.Parsing.Fuel
import CppSyntax.Proofs.WellFormed.Yield

/-!
The whole grammar accounts for what it does, by induction on the depth of its derivation. So where reading a
text fails, the error belongs to the first top-level declaration that cannot be read, and it tells of a
token from the first one of that declaration on.
-/

set_option synthInstance.maxSize 4096

namespace CppSyntax.Grammar

open CppSyntax.Parser

/-- A declaration is read as nothing only at a semicolon. -/
theorem declarationRule_stray (g : Grammar Parser) (scope : Scope) (start : State) :
    (g.declarationRule scope).Ensures (· = start) fun found _ =>
      found = none → start.isAt .semicolon = true := by
  have placement : (startPlacement : Parser Placement).Ensures (· = start) fun _ state =>
      state = start :=
    .here fun place same => .pure fun state here => here.trans same
  have accepted : (accept .semicolon : Parser Bool).Ensures (· = start) fun stray _ =>
      stray = true → start.isAt .semicolon = true :=
    .acceptIf (fun state same isAt _ => same ▸ isAt) fun _ _ _ => (absurd · Bool.false_ne_true)
  refine .nested (.bind placement fun place => .bind accepted fun stray => ?_)
  refine .assume fun isAt => .branch (fun yes => .pure fun _ _ _ => isAt yes) fun _ => ?_
  refine .bind .anything fun form => ?_
  dsimp only
  split
  · exact .bind .anything fun _ => .pure fun _ _ => (absurd · (Option.some_ne_none _))
  · exact .bind .anything fun _ => .pure fun _ _ => (absurd · (Option.some_ne_none _))

/-- Every rule over an accountable grammar accounts for what it does. -/
theorem rule_accountable {g : Grammar Parser} [g.Accountable] (place : State) (known : List String)
    (symbol : Symbol) : symbol.Accountable place known (g.rule symbol) := by
  cases symbol with
  | declaration scope => exact (inferInstance : Accounts place known (g.declarationRule scope))
  | statement => exact (inferInstance : Accounts place known g.statementRule)
  | clause => exact (inferInstance : Accounts place known g.clauseRule)
  | assignment => exact (inferInstance : Accounts place known g.assignmentRule)
  | binary level => exact (inferInstance : Accounts place known (g.binaryRule level))
  | cast => exact (inferInstance : Accounts place known g.castRule)
  | unary => exact (inferInstance : Accounts place known g.unaryRule)
  | specifiers scope => exact (inferInstance : Accounts place known (g.specifiersRule scope))
  | declarator mode => exact (inferInstance : Accounts place known (g.declaratorRule mode))
  | name inExpression => exact (inferInstance : Accounts place known (g.nameRule inExpression))
  | templateParameters => exact (inferInstance : Accounts place known g.templateParametersRule)

/-- A derivation of any depth is accountable. -/
instance derive_accountable (fuel depth : Nat) : Accountable ⟨fuel, derive fuel depth⟩ := by
  induction depth with
  | zero =>
    refine ⟨fun place known symbol => ?_, fun _ _ _ _ => nofun⟩
    cases symbol <;> exact ⟨fun _ _ _ _ => trivial⟩
  | succ depth ih =>
    refine ⟨rule_accountable, fun scope context state reached answered => ?_⟩
    exact declarationRule_stray _ scope state context state rfl none reached answered rfl

instance ofFuel_accountable (fuel : Nat) : Accountable (ofFuel fuel) := derive_accountable fuel fuel

instance {g : Grammar Parser} [g.Accountable] {place : State} {known : List String} :
    Accounts place known g.translationUnit := by
  unfold Grammar.translationUnit
  infer_instance

end CppSyntax.Grammar

namespace CppSyntax

open CppSyntax.Parser Grammar

/-- A place from which a top-level declaration is to be read, all declarations before it having been
read. -/
inductive Grammar.AtDeclaration (g : Grammar Parser) (start : State) : State → Prop
  | first : AtDeclaration g start start
  | next {place reached : State} {found : Option Declaration} (before : AtDeclaration g start place)
      (more : place.atEnd = false)
      (read : g.declaration .inNamespace .top place = .done found reached) :
      AtDeclaration g start reached

namespace Grammar

variable {g : Grammar Parser}

/-- What reads the declarations of a text one after the other. -/
def declarationStep (g : Grammar Parser) (found : List Declaration) :
    Parser (List Declaration ⊕ List Declaration) := do
  if (← here).atEnd then return .inr found
  return .inl (found ++ (← g.declaration .inNamespace).toList)

theorem declarations_failed {start place stopped : State} {error : SyntaxError} {fuel : Nat}
    {found : List Declaration} (before : g.AtDeclaration start place)
    (failed : (iterate g.declarationStep fuel found : Parser _) .top place = .failed error stopped) :
    ∃ place, g.AtDeclaration start place ∧ place.atEnd = false ∧
      g.declaration .inNamespace .top place = .failed error stopped := by
  induction fuel generalizing place found with
  | zero => cases failed
  | succ fuel ih =>
    have failed : Parser.bind (g.declarationStep found) _ .top place = .failed error stopped := failed
    have step : g.declarationStep found .top place = if place.atEnd then .done (.inr found) place
        else Parser.bind (g.declaration .inNamespace) (fun inner =>
          pure (.inl (found ++ inner.toList))) .top place := by
      show (if place.atEnd = true then _ else _ : Parser _) .top place = _
      split <;> rfl
    cases more : place.atEnd with
    | true =>
      rw [Parser.bind, step, more] at failed
      cases failed
    | false =>
      rw [Parser.bind, step, more] at failed
      cases reply : g.declaration .inNamespace .top place with
      | done inner reached =>
        simp only [Parser.bind, reply] at failed
        exact ih (.next before more reply) failed
      | failed other elsewhere =>
        simp only [Parser.bind, reply] at failed
        cases failed
        exact ⟨place, before, more, reply⟩
      | exhausted =>
        simp only [Parser.bind, reply] at failed
        cases failed

/-- A text that cannot be read fails in the declaration at one of these places. -/
theorem translationUnit_failed {start stopped : State} {error : SyntaxError}
    (failed : g.translationUnit .top start = .failed error stopped) :
    ∃ place, g.AtDeclaration start place ∧ place.atEnd = false ∧
      g.declaration .inNamespace .top place = .failed error stopped := by
  have failed : Parser.bind (iterate g.declarationStep g.fuel []) _ .top start =
      .failed error stopped := failed
  unfold Parser.bind at failed
  cases reply : (iterate g.declarationStep g.fuel [] : Parser _) .top start with
  | done declarations reached =>
    rw [reply] at failed
    cases failed
  | failed other elsewhere =>
    rw [reply] at failed
    cases failed
    exact declarations_failed .first reply
  | exhausted =>
    rw [reply] at failed
    cases failed

/-- The declarations before a place lie between the start and the place. -/
theorem AtDeclaration.reaches [g.Accountable] {start place : State}
    (before : g.AtDeclaration start place) : start.Reaches place := by
  induction before with
  | first => exact .refl
  | @next middle reached found earlier more read ih =>
    have account : (g.declaration .inNamespace .top middle).Accounted namesIn middle [] :=
      AccountsFor.accounted .top middle .refl (List.nil_subset _)
    rw [read] at account
    exact ih.trans account.1

end Grammar

/-- The grammar by which a whole text is read. -/
def Reader.grammar (tokens : List Token) : Grammar Parser :=
  .ofFuel (Reader.fuel (.start libraryTypeNames tokens))

/-- The error is that of the top-level declaration at the given place of a text, before which all
declarations have been read. -/
structure SyntaxError.ArisesAt (error : SyntaxError) (tokens : List Token) (place : State) : Prop where
  before : (Reader.grammar tokens).AtDeclaration (.start libraryTypeNames tokens) place
  inside : place.atEnd = false
  arises : ∃ stopped,
    (Reader.grammar tokens).declaration .inNamespace .top place = .failed error stopped
  suffix : place.tokens <:+ tokens

/-- A text whose tokens can be told but which cannot be read fails at a declaration. The error stands
at a token from the first one of that declaration on, and it names this token, unless it is one of the
two that are made by hand. -/
theorem parse_failure {source : String} {tokens : List Token} {error : SyntaxError}
    (lexed : Token.ofSource source = .ok tokens) (failed : parse source = .error error) :
    ∃ place, error.ArisesAt tokens place ∧ ∃ token ∈ place.tokens,
      error.location = token.location ∧ (error.found = .token token.kind ∨ error.IsHandMade) := by
  let start := State.start libraryTypeNames tokens
  let g : Grammar Parser := .ofFuel (Reader.fuel start)
  obtain ⟨front, last, whole, atEnd⟩ := Token.ofSource_ended lexed
  have same : start.tokens = tokens := State.tokens_start (by simp [whole]) _
  have ended : start.Ended := by simpa only [State.Ended, same, whole, List.getLast_concat] using atEnd
  -- The fuel suffices, so that the error is that of a rule.
  have settled : (g.translationUnit .top start).Settled start Never :=
    Reader.parser_settled ended fun supply => .anywhere
  have read : parse source = (Reader.translationUnit start).1 := by
    rw [parse, Reader.ofSource, lexed]
    rfl
  rw [read, Reader.translationUnit, Reader.run] at failed
  cases reply : g.translationUnit .top start with
  | done unit reached =>
    rw [reply] at failed
    cases failed
  | exhausted =>
    rw [reply] at settled
    exact settled.elim
  | failed other stopped =>
    rw [reply] at failed
    cases failed
    obtain ⟨place, before, more, arises⟩ := translationUnit_failed reply
    have account : (g.declaration .inNamespace .top place).Accounted namesIn place [] :=
      AccountsFor.accounted .top place .refl (List.nil_subset _)
    rw [arises] at account
    have suffix : place.tokens <:+ tokens := same ▸ before.reaches.tokens_suffix
    exact ⟨place, ⟨before, more, ⟨stopped, arises⟩, suffix⟩, account.located⟩

/-- The second declaration fails behind its first token. -/
theorem parse_failure_second :
    let source := "int x; struct A { int 5; };"
    ∃ tokens error place, Token.ofSource source = .ok tokens ∧ parse source = .error error ∧
      error.ArisesAt tokens place ∧ ∃ token ∈ place.tokens,
        error.location = token.location ∧ (error.found = .token token.kind ∨ error.IsHandMade) := by
  intro source
  have read : (parse source).toOption.isNone = true := by decide +kernel
  have told : (Token.ofSource source).toOption.isSome = true := by decide +kernel
  obtain ⟨tokens, found⟩ := Option.isSome_iff_exists.mp told
  have lexed := toOption_eq_some.mp found
  cases failed : parse source with
  | ok unit =>
    rw [failed] at read
    cases read
  | error error =>
    obtain ⟨place, located⟩ := parse_failure lexed failed
    exact ⟨tokens, error, place, lexed, rfl, located⟩

end CppSyntax
