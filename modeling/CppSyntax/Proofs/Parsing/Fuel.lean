import CppSyntax.Proofs.Grammar.Statement
import CppSyntax.Proofs.Parsing.Guarded
import CppSyntax.Reader

/-!
Reading never runs out of fuel. Every rule answers with a supply, so by induction on the depth of the
derivation a grammar answers for every symbol that its fuel covers, and the fuel of a reader covers
the rest of its text.
-/

namespace CppSyntax

open CppSyntax.Parser Grammar

/-- A rule answers with a supply for the symbols of lower ranks. -/
theorem Grammar.rule_answers (supply : Supply) (symbol : Symbol) :
    Answers supply symbol.rank (fun _ => symbol.IsSolid) (supply.grammar.rule symbol) := by
  cases symbol with
  | declaration scope => 
    exact (inferInstance : Answers supply 8 Always (supply.grammar.declarationRule scope))
  | statement => exact (inferInstance : Answers supply 9 Always supply.grammar.statementRule)
  | clause => exact (inferInstance : Answers supply 7 Never supply.grammar.clauseRule)
  | assignment => exact (inferInstance : Answers supply 6 Never supply.grammar.assignmentRule)
  | binary level => exact (inferInstance : Answers supply 5 Never (supply.grammar.binaryRule level))
  | cast => exact (inferInstance : Answers supply 4 Never supply.grammar.castRule)
  | unary => exact (inferInstance : Answers supply 3 Never supply.grammar.unaryRule)
  | specifiers scope =>
    exact (inferInstance : Answers supply 2 Never (supply.grammar.specifiersRule scope))
  | declarator mode =>
    exact (inferInstance : Answers supply 2 Never (supply.grammar.declaratorRule mode))
  | name inExpression =>
    exact (inferInstance : Answers supply 1 Always (supply.grammar.nameRule inExpression))
  | templateParameters =>
    exact (inferInstance : Answers supply 0 Never supply.grammar.templateParametersRule)

/-- The grammar of a given depth answers wherever the depth and the fuel suffice. -/
theorem Grammar.derive_settled (fuel depth : Nat) (symbol : Symbol) (context : Context)
    (state : State) (ended : state.Ended) (deep : 16 * state.remaining + symbol.rank ≤ depth)
    (fueled : state.remaining < fuel) :
    ((derive fuel depth symbol : Parser _) context state).Settled state fun _ => symbol.IsSolid := by
  induction depth generalizing symbol context state with
  | zero => simp [State.remaining] at deep
  | succ depth ih =>
    let supply : Supply := ⟨⟨fuel, derive fuel depth⟩, depth, ih⟩
    exact (rule_answers supply symbol).settled context state ⟨ended, deep, fueled⟩

/-- The supply of a grammar with a given fuel. -/
def Supply.ofFuel (fuel : Nat) : Supply := ⟨.ofFuel fuel, fuel, derive_settled fuel fuel⟩

instance Answers.translationUnit (supply : Supply) :
    Answers supply 16 Never supply.grammar.translationUnit := by
  unfold Grammar.translationUnit
  infer_instance

namespace Reader

variable {parser : Grammar Parser → Parser α} {state : State}

/-- A reader runs any parser that answers with a supply at its place to its end. -/
theorem parser_settled (ended : state.Ended)
    (answers : ∀ supply : Supply, AnswersAt supply 16 Never state (parser supply.grammar)) :
    (parser (.ofFuel (fuel state)) .top state).Settled state Never := by
  refine answers (.ofFuel (fuel state)) .top ⟨ended, ?_, ?_⟩
  · show 16 * state.remaining + 16 ≤ fuel state + 1
    simp only [fuel]
    omega
  · show state.remaining < fuel state
    simp only [fuel]
    omega

end Reader

theorem State.tokens_start {tokens : List Token} (nonempty : tokens ≠ []) (typeNames : List String) :
    (State.start typeNames tokens).tokens = tokens := by
  cases tokens with
  | nil => exact absurd rfl nonempty
  | cons first following => rfl

/-- What is promised of the declarations of a text is promised of the text. Since fuel suffices, the
only other answer is an error, where none is sure not to come. -/
theorem parse_of_reads {source : String} {tokens : List Token} {holds : State → Prop} {sure : Prop}
    {good : TranslationUnit → Prop} {rest : List Glyph} (lexed : Token.ofSource source = .ok tokens)
    (start : holds (.start (libraryTypeNames ++ []) tokens))
    (reads : ∀ g : Grammar Parser, g.IsDerived → g.translationUnit.ReadsUnder holds .top sure
      (tokens.map Token.glyph) good rest) :
    (∃ unit, parse source = .ok unit ∧ good unit) ∨
      (¬ sure ∧ ∃ error, parse source = .error error) := by
  obtain ⟨front, last, rfl, atEnd⟩ := Token.ofSource_ended lexed
  let first := State.start (libraryTypeNames ++ []) (front ++ [last])
  have same : first.tokens = front ++ [last] := State.tokens_start (by simp) _
  have ended : first.Ended := by simpa only [State.Ended, same, List.getLast_concat] using atEnd
  have settled : ((Grammar.translationUnit (.ofFuel (Reader.fuel first)) : Parser _) .top first).Settled first
      Never := Reader.parser_settled ended fun supply => .anywhere
  have gives := reads (.ofFuel (Reader.fuel first)) ⟨_, _, rfl⟩ first start
    (by rw [State.glyphs, same])
  have read : parse source = (Reader.translationUnit first).1 := by
    rw [parse, Reader.ofSource, lexed]
    rfl
  rw [read, Reader.translationUnit, Reader.run]
  cases reply : (Grammar.translationUnit (.ofFuel (Reader.fuel first)) : Parser _) .top first with
  | done unit reached =>
    rw [reply] at gives
    exact .inl ⟨unit, rfl, gives.1⟩
  | failed error stopped =>
    rw [reply] at gives
    exact .inr ⟨gives, error, rfl⟩
  | exhausted =>
    rw [reply] at settled
    exact settled.elim

end CppSyntax
