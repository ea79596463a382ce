import CppSyntax.Proofs.Guess.Keeping
import CppSyntax.Grammar.Derivation

/-!
What a grammar promises about brackets, and the rules that several of its areas share.
-/

namespace CppSyntax

open CppSyntax.Parser

/-- What operators and operands are read as part of. -/
def Context.region (context : Context) : Region :=
  if context.inTemplateArguments then .argument else .anything

/-- The symbols that come up before ordinary tokens. -/
def Symbol.isOrdinary : Symbol → Bool
  | .declaration _ | .statement | .templateParameters => false
  | _ => true

/-- What a symbol is read as part of. Assignments stand in brackets of their own. -/
def Symbol.region : Symbol → Context → Region
  | .specifiers _, _ | .declarator _, _ | .name _, _ => .type
  | .binary _, context | .cast, context | .unary, context => context.region
  | _, _ => .anything

/-- A grammar in which every symbol keeps to the brackets around it. -/
structure Grammar.Tidy (g : Grammar Parser) : Prop where
  keeps : ∀ symbol : Symbol, symbol.isOrdinary = true → ∀ context,
    (g.parse symbol).Keeps context (symbol.region context)

/-- A type may stand wherever operands may. -/
theorem Region.allows_of_type {region : Region} {kind : TokenKind}
    (allowed : Region.type.allows kind = true) : region.allows kind = true := by
  cases region with
  | type => exact allowed
  | anything => rfl
  | argument =>
    cases kind with
    | identifier ident => rfl
    | punctuator mark => cases mark <;> first | rfl | cases allowed
    | _ => cases allowed

theorem Parser.Keeps.ofType {context : Context} {region : Region} {p : Parser α}
    (keeps : p.Keeps context .type) : p.Keeps context region :=
  keeps.mono fun _ => Region.allows_of_type

namespace Grammar

variable {g : Grammar Parser} {context : Context} {region : Region}

namespace Tidy

section

variable (tidy : g.Tidy)

include tidy

theorem name (inExpression : Bool) : (g.parse (.name inExpression)).Keeps context .type :=
  tidy.keeps (.name inExpression) rfl context

theorem specifiers (scope : Scope) : (g.specifiers scope).Keeps context .type :=
  tidy.keeps (.specifiers scope) rfl context

theorem declarator (mode : DeclaratorMode) : (g.declarator mode).Keeps context .type :=
  tidy.keeps (.declarator mode) rfl context

theorem clause : g.clause.Keeps context .anything := tidy.keeps .clause rfl context

theorem assignment : g.assignment.Keeps context .anything := tidy.keeps .assignment rfl context

theorem binary (level : Nat) : (g.binary level).Keeps context context.region :=
  tidy.keeps (.binary level) rfl context

theorem cast : g.cast.Keeps context context.region := tidy.keeps .cast rfl context

theorem unary : g.unary.Keeps context context.region := tidy.keeps .unary rfl context

end

end Tidy

private theorem comma_steps {depth : Nat} :
    Region.anything.Steps (.punctuator .comma) depth depth :=
  .token rfl rfl rfl (.inr rfl)

theorem bracedList_tidy : g.bracedList.Keeps context region :=
  fun _ => .expectNever rfl rfl

section

variable (tidy : g.Tidy)

include tidy

theorem commaStep_tidy (left : Expr) : (g.commaStep left).Keeps context .anything :=
  fun _ => .accept comma_steps (fun _ => .bind tidy.assignment fun _ _ => .pure) .pure

theorem expression_tidy : g.expression.Keeps context .anything :=
  fun _ => .bind tidy.assignment fun first => Keeps.iterate (commaStep_tidy tidy) _ first

theorem bracketed_tidy : g.bracketed.Keeps context .anything := expression_tidy tidy

private theorem branches_tidy (test : Expr) {state : State} :
    (do
      let thenValue ← g.bracketed
      expect .colon "in conditional expression"
      return .conditional test thenValue (← g.assignment) : Parser Expr).Closes context .anything 0
        state := by
  refine .bind (bracketed_tidy tidy) fun thenValue _ => ?_
  refine .expect (.token rfl rfl rfl (.inr rfl)) fun _ => ?_
  exact .bind tidy.assignment fun _ _ => .pure

theorem conditional_tidy : g.conditional.Keeps context context.region := by
  refine fun _ => .bind (tidy.binary _) fun test place => ?_
  unfold Context.region
  split
  · exact .acceptQuestion (fun _ => branches_tidy tidy test) .pure
  · exact .accept (.token rfl rfl rfl (.inr rfl)) (fun _ => branches_tidy tidy test) .pure

theorem listStep_tidy (close : Punctuator) (items : List Expr) :
    (g.listStep close items).Keeps context .anything := by
  refine fun state => .here (.branch (fun _ => .pure) fun _ => ?_)
  refine .bind tidy.clause fun item _ => .acceptNever rfl rfl ?_
  exact .accept comma_steps (fun _ => .pure) .pure

/-- A list is read up to and including its closing mark. -/
theorem expressionList_closes {close : Punctuator} {depth : Nat} {f : List Expr → Parser α}
    {state : State} (closes : (TokenKind.punctuator close).closesBracket = true)
    (later : ∀ values reached, (f values).Closes context region depth reached) :
    (g.expressionList close >>= f).Closes context region (depth + 1) state := by
  have items : (angleCloses false (g.loop (g.listStep close) [])).Keeps context .anything :=
    .angleCloses (.iterate (listStep_tidy tidy close) _ _)
  refine .assoc (.bindInside items fun values _ => ?_)
  exact .assoc (.expect (.closing closes) fun _ => later values _)

theorem expressionOrBraced_tidy : g.expressionOrBraced.Keeps context .anything := by
  refine fun state => .here (.branch (fun _ => ?_) fun _ => expression_tidy tidy state)
  exact .bind bracedList_tidy fun _ _ => .pure

theorem certainTypeSpecifier_tidy : g.certainTypeSpecifier.Keeps context .type := by
  refine fun state => .here (.bind (tidy.specifiers _) fun specs _ => ?_)
  refine .branch (fun _ => .failWith _) fun _ => ?_
  cases specs.type with
  | none => exact .fail _
  | some type => exact .pure

theorem certainTypeId_tidy : g.certainTypeId.Keeps context .type :=
  fun _ => .bind (certainTypeSpecifier_tidy tidy) fun _ _ => .bind (tidy.declarator _) fun _ _ => .pure

theorem typeId_tidy : g.typeId.Keeps context .type := .map (certainTypeId_tidy tidy)

end

end Grammar

end CppSyntax
