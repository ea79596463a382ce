import CppSyntax.Proofs.Everywhere.Value
import CppSyntax.Proofs.WellFormed.Yield

/-!
Parsers that build statements of forms that meet a condition only. That a rule does so is found by
instances, from the parsers that it is put together from.
-/

set_option synthInstance.maxSize 4096

namespace CppSyntax

open CppSyntax.Parser

/-- Wherever the parser answers with a value, the condition holds throughout it. -/
class Builds (Q : Tree .statementForm → Prop) [HasNodes α] (p : Parser α) : Prop where
  ensures : p.Ensures (fun _ => True) fun value _ => Throughout Q value

variable {Q : Tree .statementForm → Prop}

namespace Builds

variable [HasNodes α] [HasNodes β] [HasNodes γ] {p : Parser α} {f : α → Parser β} {q : Parser β}

/-- What a parser builds from the places of a kind. -/
theorem from_places (before : State → Prop) [builds : Builds Q p] :
    p.Ensures before fun value _ => Throughout Q value :=
  builds.ensures.mono (fun _ _ => trivial) fun _ _ => id

theorem andThen (first : Builds Q p) (later : ∀ bearing : Bearing Q α, Builds Q (f bearing.value)) :
    Builds Q (p >>= f) :=
  ⟨.bind first.ensures fun value context state all =>
    (later ⟨value, all⟩).ensures context state trivial⟩

instance bind [first : Builds Q p] [later : ∀ bearing : Bearing Q α, Builds Q (f bearing.value)] :
    Builds Q (p >>= f) :=
  first.andThen later

theorem whether {p : Parser (Option α)} {f : Option α → Parser β} (first : Builds Q p)
    (found : ∀ bearing : Bearing Q α, Builds Q (f (some bearing.value))) (missing : Builds Q (f none)) :
    Builds Q (p >>= f) := by
  refine ⟨.bind first.ensures fun value context state all => ?_⟩
  cases value with
  | none => exact missing.ensures context state trivial
  | some value => exact (found ⟨value, Throughout.some_iff.mp all⟩).ensures context state trivial

instance (priority := high) bindOption {p : Parser (Option α)} {f : Option α → Parser β}
    [first : Builds Q p] [found : ∀ bearing : Bearing Q α, Builds Q (f (some bearing.value))]
    [missing : Builds Q (f none)] : Builds Q (p >>= f) :=
  first.whether found missing

instance (priority := high) bindPair {p : Parser (α × β)} {f : α × β → Parser γ} [first : Builds Q p]
    [later : ∀ (a : Bearing Q α) (b : Bearing Q β), Builds Q (f (a.value, b.value))] :
    Builds Q (p >>= f) := by
  refine first.andThen fun ⟨(a, b), all⟩ => ?_
  obtain ⟨allA, allB⟩ := Throughout.pair_iff.mp all
  exact later ⟨a, allA⟩ ⟨b, allB⟩

instance (priority := high) bindTriple [HasNodes δ] {p : Parser (α × β × γ)}
    {f : α × β × γ → Parser δ} [first : Builds Q p]
    [later : ∀ (a : Bearing Q α) (b : Bearing Q β) (c : Bearing Q γ),
      Builds Q (f (a.value, b.value, c.value))] : Builds Q (p >>= f) := by
  refine first.andThen fun ⟨(a, b, c), all⟩ => ?_
  obtain ⟨allA, allRest⟩ := Throughout.pair_iff.mp all
  obtain ⟨allB, allC⟩ := Throughout.pair_iff.mp allRest
  exact later ⟨a, allA⟩ ⟨b, allB⟩ ⟨c, allC⟩

instance map {g : α → β} [first : Builds Q p]
    [kept : ∀ bearing : Bearing Q α, Throughout Q (g bearing.value)] : Builds Q (g <$> p) :=
  ⟨.bind first.ensures fun value context state all => by
    rintro _ _ ⟨⟩
    exact kept ⟨value, all⟩⟩

instance pure {value : α} [all : Throughout Q value] : Builds Q (Pure.pure value : Parser α) :=
  ⟨.pure fun _ _ => all⟩

instance fail (expected : Expectation) : Builds Q (Parser.fail expected : Parser α) := ⟨.fail expected⟩

instance (priority := high) failFirst (expected : Expectation) :
    Builds Q ((Parser.fail expected : Parser α) >>= f) :=
  ⟨.failFirst expected⟩

instance failWith (error : SyntaxError) : Builds Q (Parser.failWith error : Parser α) :=
  ⟨.failWith error⟩

instance branch {condition : Prop} [Decidable condition] {other : Parser β} [yes : Builds Q q]
    [no : Builds Q other] : Builds Q (if condition then q else other) :=
  ⟨.branch (fun _ => yes.ensures) fun _ => no.ensures⟩

instance (priority := low) treeless [Treeless α] : Builds Q p :=
  ⟨fun _ _ _ _ _ _ => inferInstance⟩

section

variable [builds : Builds Q p]

include builds

instance attempt : Builds Q (Parser.attempt p : Parser (Option α)) :=
  ⟨builds.ensures.attempted.mono (fun _ => id) fun _ _ each => Throughout.option_iff.mpr each⟩

instance angleCloses {closes : Bool} : Builds Q (Parser.angleCloses closes p : Parser α) :=
  ⟨.angleCloses builds.ensures⟩

instance insideClass {ident : String} : Builds Q (Parser.insideClass ident p : Parser α) :=
  ⟨fun _ state known value reached answered => builds.ensures _ state known value reached answered⟩

instance nested : Builds Q (Parser.nested p : Parser α) := ⟨.nested builds.ensures⟩

end

instance iterate {step : α → Parser (α ⊕ β)}
    [one : ∀ bearing : Bearing Q α, Builds Q (step bearing.value)] {fuel : Nat} {start : α}
    [all : Throughout Q start] : Builds Q (Parser.iterate step fuel start) := by
  have each (value : α) : (step value).Ensures (fun _ => Throughout Q value)
      (Progress (fun again _ => Throughout Q again) fun result _ => Throughout Q result) := by
    intro context state all result reached answered
    have all := (one ⟨value, all⟩).ensures context state trivial result reached answered
    cases result with
    | inl again => exact ⟨all.everywhere⟩
    | inr result => exact ⟨all.everywhere⟩
  exact ⟨(Ensures.iterate (fun value _ => Throughout Q value) each fuel start).mono (fun _ _ => all)
    fun _ _ => id⟩

instance loop {g : Grammar Parser} {step : α → Parser (α ⊕ β)}
    [∀ bearing : Bearing Q α, Builds Q (step bearing.value)] {start : α} [Throughout Q start] :
    Builds Q (g.loop step start) :=
  iterate

end Builds

/-- The condition holds throughout the value of a symbol. -/
def Symbol.Bears (Q : Tree .statementForm → Prop) : (symbol : Symbol) → symbol.Value → Prop
  | .declaration _, (found : Option Declaration) => Throughout Q found
  | .statement, (found : Statement) => Throughout Q found
  | .clause, (value : Expr) | .assignment, (value : Expr) | .binary _, (value : Expr)
  | .cast, (value : Expr) | .unary, (value : Expr) => Throughout Q value
  | .specifiers _, (specs : ParsedSpecifiers) => Throughout Q specs
  | .declarator _, (shape : Declarator) => Throughout Q shape
  | .name _, (target : Name) => Throughout Q target
  | .templateParameters, (params : List (Tree .templateParameter)) => Throughout Q params

namespace Grammar

/-- Every symbol is read as a value throughout which the condition holds. -/
class Bearer (Q : Tree .statementForm → Prop) (g : Grammar Parser) : Prop where
  bears (symbol : Symbol) :
    (g.parse symbol).Ensures (fun _ => True) fun value _ => symbol.Bears Q value

variable {g : Grammar Parser} [bearer : g.Bearer Q]

instance (scope : Scope) : Builds Q (g.declaration scope) := ⟨bearer.bears (.declaration scope)⟩

instance : Builds Q g.statement := ⟨bearer.bears .statement⟩

instance : Builds Q g.clause := ⟨bearer.bears .clause⟩

instance : Builds Q g.assignment := ⟨bearer.bears .assignment⟩

instance (level : Nat) : Builds Q (g.binary level) := ⟨bearer.bears (.binary level)⟩

instance : Builds Q g.cast := ⟨bearer.bears .cast⟩

instance : Builds Q g.unary := ⟨bearer.bears .unary⟩

instance (scope : Scope) : Builds Q (g.specifiers scope) := ⟨bearer.bears (.specifiers scope)⟩

instance (mode : DeclaratorMode) : Builds Q (g.declarator mode) := ⟨bearer.bears (.declarator mode)⟩

instance : Builds Q g.name := ⟨bearer.bears (.name false)⟩

instance : Builds Q g.nameInExpression := ⟨bearer.bears (.name true)⟩

instance : Builds Q g.templateParameters := ⟨bearer.bears .templateParameters⟩

instance [HasNodes α] {item : Parser α} [Builds Q item] : Builds Q (g.separated item) := by
  unfold Grammar.separated
  infer_instance

instance [HasNodes α] {item : Parser (Option α)} [Builds Q item] (close : Punctuator) :
    Builds Q (g.itemsUntil close item) := by
  unfold Grammar.itemsUntil
  infer_instance

instance (left : Bearing Q Expr) : Builds Q (g.commaStep left.value) := by
  unfold Grammar.commaStep
  infer_instance

instance : Builds Q g.expression := by
  unfold Grammar.expression
  infer_instance

instance : Builds Q g.bracketed := by
  unfold Grammar.bracketed
  infer_instance

instance : Builds Q g.conditional := by
  unfold Grammar.conditional
  infer_instance

instance (close : Punctuator) (items : Bearing Q (List Expr)) :
    Builds Q (g.listStep close items.value) := by
  unfold Grammar.listStep
  infer_instance

instance (close : Punctuator) : Builds Q (g.expressionList close) := by
  unfold Grammar.expressionList
  infer_instance

instance : Builds Q g.bracedList := by
  unfold Grammar.bracedList
  infer_instance

instance : Builds Q g.expressionOrBraced := by
  unfold Grammar.expressionOrBraced
  infer_instance

instance certainTypeSpecifier_builds : Builds Q g.certainTypeSpecifier := by
  unfold Grammar.certainTypeSpecifier
  refine .andThen inferInstance fun start => .andThen inferInstance fun specs => ?_
  have all : Throughout Q specs.value.type := ⟨specs.all.everywhere⟩
  cases found : specs.value.type with
  | none => infer_instance
  | some type =>
    have all : Throughout Q type := Throughout.some_iff.mp (found ▸ all)
    infer_instance

instance : Builds Q g.typeSpecifier := by
  unfold Grammar.typeSpecifier
  infer_instance

instance : Builds Q g.certainTypeId := by
  unfold Grammar.certainTypeId
  infer_instance

instance : Builds Q g.typeId := by
  unfold Grammar.typeId
  infer_instance

instance : Builds Q g.parenthesizedType := by
  unfold Grammar.parenthesizedType
  infer_instance

end Grammar

end CppSyntax
