import CppSyntax.Proofs.WellFormed.Yield

/-!
What every symbol of the grammar promises of the value it is read as: that its trees are well formed,
and what the rules that use the symbol rely on beyond that. A grammar is sound when it keeps all
these promises, and every rule is proved over a sound grammar.
-/

set_option synthInstance.maxSize 4096

namespace CppSyntax

open CppSyntax.Parser

namespace State

/-- Whether the word of a builtin type stands here. -/
def atBuiltinType (state : State) : Prop :=
  ∃ word : Keyword, state.kind = .keyword word ∧ word.isBuiltinType

/-- Whether a pointer operator is certain to be read here, as far as a nested declarator looks for
one behind its parenthesis. -/
def atPointerOperator (state : State) : Bool :=
  match state.kind with
  | .punctuator mark => [.star, .ampersand, .andAnd].contains mark
  | .identifier _ => state.isAhead 1 .scope && state.isAhead 2 .star
  | _ => false

end State

namespace Tree

/-- The declarator names something or binds names. -/
def IsNamed (shape : Declarator) : Prop := shape.declaredName?.isSome ∨ shape.boundNames ≠ []

/-- A declaration that may stand outside of a class. -/
def IsFree (found : Option Declaration) : Prop := ∀ inner ∈ found, ¬ inner.isMemberOnly

end Tree

/-- The type is one of the builtin types. -/
def ParsedSpecifiers.IsBuiltin (specs : ParsedSpecifiers) : Prop :=
  ∃ cv words, specs.type = some (.builtinType cv words)

/-- What is promised of the value that a symbol is read as from a place on. -/
def Symbol.Promises : (symbol : Symbol) → State → symbol.Value → Prop
  | .declaration scope, _, found => Fine found ∧ (scope ≠ .inClass → Tree.IsFree found)
  | .statement, _, form => Fine form
  | .clause, _, value | .assignment, _, value | .binary _, _, value | .cast, _, value
  | .unary, _, value => Fine value
  | .specifiers _, start, specs => Fine specs ∧ (start.atBuiltinType → specs.IsBuiltin)
  | .declarator mode, start, shape => Fine shape ∧ (mode = .named → shape.IsNamed) ∧
      (start.atPointerOperator = true → shape.pointerOperators ≠ [])
  | .name _, _, target => Fine target
  | .templateParameters, _, params => Fine params

namespace Grammar

/-- The grammar keeps what its symbols promise. -/
class Sound (g : Grammar Parser) : Prop where
  derived : g.IsDerived
  keeps : ∀ symbol start,
    (g.parse symbol).Ensures (· = start) fun value _ => symbol.Promises start value

variable {g : Grammar Parser} [sound : g.Sound]

/-- What a symbol promises from the places of a kind. -/
theorem Sound.from_places {symbol : Symbol} {before : State → Prop} {promised : symbol.Value → Prop}
    (weaker : ∀ start value, before start → symbol.Promises start value → promised value) :
    (g.parse symbol).Ensures before fun value _ => promised value :=
  fun context start known value reached answered =>
    weaker start value known (sound.keeps symbol start context start rfl value reached answered)

instance (scope : Scope) : Yields (g.declaration scope) :=
  ⟨sound.from_places fun _ _ _ => And.left⟩

instance : Yields g.statement := ⟨sound.from_places fun _ _ _ => id⟩

instance : Yields g.clause := ⟨sound.from_places fun _ _ _ => id⟩

instance : Yields g.assignment := ⟨sound.from_places fun _ _ _ => id⟩

instance (level : Nat) : Yields (g.binary level) := ⟨sound.from_places fun _ _ _ => id⟩

instance : Yields g.cast := ⟨sound.from_places fun _ _ _ => id⟩

instance : Yields g.unary := ⟨sound.from_places fun _ _ _ => id⟩

instance (scope : Scope) : Yields (g.specifiers scope) :=
  ⟨sound.from_places fun _ _ _ => And.left⟩

instance (mode : DeclaratorMode) : Yields (g.declarator mode) :=
  ⟨sound.from_places fun _ _ _ => And.left⟩

instance : Yields g.name := ⟨sound.from_places fun _ _ _ => id⟩

instance : Yields g.nameInExpression := ⟨sound.from_places fun _ _ _ => id⟩

instance : Yields g.templateParameters := ⟨sound.from_places fun _ _ _ => id⟩

instance [HasNodes α] {item : Parser α} [Yields item] : Yields (g.separated item) := by
  unfold Grammar.separated
  infer_instance

instance [HasNodes α] {item : Parser (Option α)} [Yields item] (close : Punctuator) :
    Yields (g.itemsUntil close item) := by
  unfold Grammar.itemsUntil
  infer_instance

instance (left : Good Expr) : Yields (g.commaStep left.value) := by
  unfold Grammar.commaStep
  infer_instance

instance : Yields g.expression := by
  unfold Grammar.expression
  infer_instance

instance : Yields g.bracketed := by
  unfold Grammar.bracketed
  infer_instance

instance : Yields g.conditional := by
  unfold Grammar.conditional
  infer_instance

instance (close : Punctuator) (items : Good (List Expr)) : Yields (g.listStep close items.value) := by
  unfold Grammar.listStep
  infer_instance

instance (close : Punctuator) : Yields (g.expressionList close) := by
  unfold Grammar.expressionList
  infer_instance

instance : Yields g.bracedList := by
  unfold Grammar.bracedList
  infer_instance

instance : Yields g.expressionOrBraced := by
  unfold Grammar.expressionOrBraced
  infer_instance

instance certainTypeSpecifier_yields : Yields g.certainTypeSpecifier := by
  unfold Grammar.certainTypeSpecifier
  refine .andThen inferInstance fun start => .andThen inferInstance fun specs => ?_
  have fine : Fine specs.value.type := ⟨specs.fine.sound⟩
  cases found : specs.value.type with
  | none => infer_instance
  | some type =>
    have fine : Fine type := Fine.some_iff.mp (found ▸ fine)
    infer_instance

instance : Yields g.typeSpecifier := by
  unfold Grammar.typeSpecifier
  infer_instance

instance : Yields g.certainTypeId := by
  unfold Grammar.certainTypeId
  infer_instance

instance : Yields g.typeId := by
  unfold Grammar.typeId
  infer_instance

instance : Yields g.parenthesizedType := by
  unfold Grammar.parenthesizedType
  infer_instance

end Grammar

end CppSyntax
