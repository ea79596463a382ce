import CppSyntax.Proofs.Parsing.Fuel
import CppSyntax.Proofs.WellFormed.Grammar.Statement

/-!
Every unit that a text is read as is well formed for the writer.
-/

set_option synthInstance.maxSize 4096

namespace CppSyntax

open CppSyntax.Parser Grammar

namespace Grammar

/-- Every rule over a sound grammar keeps what its symbol promises. -/
theorem rule_keeps {g : Grammar Parser} [g.Sound] (symbol : Symbol) (start : State) :
    (g.rule symbol).Ensures (· = start) fun value _ => symbol.Promises start value := by
  cases symbol with
  | declaration scope => exact (declarationRule_keeps scope).anywhere
  | statement => exact (inferInstance : Yields g.statementRule).ensures.anywhere
  | clause => exact (inferInstance : Yields g.clauseRule).ensures.anywhere
  | assignment => exact (inferInstance : Yields g.assignmentRule).ensures.anywhere
  | binary level => exact (inferInstance : Yields (g.binaryRule level)).ensures.anywhere
  | cast => exact (inferInstance : Yields g.castRule).ensures.anywhere
  | unary => exact (inferInstance : Yields g.unaryRule).ensures.anywhere
  | specifiers scope =>
    refine .and (inferInstance : Yields (g.specifiersRule scope)).ensures.anywhere ?_
    rintro context _ rfl value reached answered isAt
    exact specifiersRule_builtin scope context _ isAt value reached answered
  | declarator mode => exact declaratorRule_keeps mode start
  | name inExpression => exact (inferInstance : Yields (g.nameRule inExpression)).ensures.anywhere
  | templateParameters => exact (inferInstance : Yields g.templateParametersRule).ensures.anywhere

/-- A derivation of any depth is sound. -/
instance derive_sound (fuel depth : Nat) : Sound ⟨fuel, derive fuel depth⟩ := by
  induction depth with
  | zero => exact ⟨⟨_, _, rfl⟩, fun _ _ _ _ _ _ _ => nofun⟩
  | succ depth ih => exact ⟨⟨_, _, rfl⟩, rule_keeps⟩

variable {g : Grammar Parser} [g.Sound]

instance translationUnit_yields : Yields g.translationUnit := by
  refine ⟨.bind (row_free (·.atEnd) g.fuel) fun declarations => .assume fun free => ?_⟩
  refine .here fun place _ => .pure fun _ _ => ?_
  have fine := free.fine
  have fits : Holds (Tree.unit (.ofList declarations) place.current.leadingComments).Fits :=
    ⟨free.outside⟩
  infer_instance

end Grammar

/-- Every unit that a text is read as is well formed. -/
theorem parse_wellFormed {source : String} {unit : TranslationUnit}
    (parsed : parse source = .ok unit) : unit.WellFormed := by
  unfold parse at parsed
  cases opened : Reader.ofSource source [] with
  | error error =>
    rw [opened] at parsed
    cases parsed
  | ok start =>
    rw [opened] at parsed
    have parsed : (Reader.translationUnit start).1 = .ok unit := parsed
    unfold Reader.translationUnit Reader.run at parsed
    split at parsed
    · rename_i found reached reply
      cases parsed
      have yields : Yields (Grammar.translationUnit (.ofFuel (Reader.fuel start)) : Parser _) :=
        inferInstanceAs (Yields (Grammar.translationUnit
          ⟨Reader.fuel start, derive (Reader.fuel start) (Reader.fuel start)⟩ : Parser _))
      exact (yields.ensures .top start trivial _ reached reply).wellFormed
    · cases parsed
    · cases parsed

/-- A class with a label, a bit-field behind a template header, a constructor that initializes its
members, and a cast to a builtin type. -/
theorem parse_wellFormed_members :
    let source := "struct A { public: template<class T> int b : 3, (*c)(int); A() : b(int(1)) {} };"
    ∃ unit, parse source = .ok unit ∧ unit.WellFormed := by
  intro source
  have read : (parse source).toOption.isSome = true := by decide +kernel
  obtain ⟨unit, found⟩ := Option.isSome_iff_exists.mp read
  have parsed := toOption_eq_some.mp found
  exact ⟨unit, parsed, parse_wellFormed parsed⟩

end CppSyntax
