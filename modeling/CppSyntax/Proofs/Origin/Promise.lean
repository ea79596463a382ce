import CppSyntax.Proofs.Origin.Contract

/-!
What every symbol of the grammar introduces, and the rules that several areas share. A declarator is not
asked for its pointer operators, which introduce nothing where no types stand apart.
-/

set_option synthInstance.maxSize 4096

namespace CppSyntax

open CppSyntax.Parser

/-- The names that a declarator introduces behind its pointer operators. -/
def Tree.coreNames : Declarator → List String
  | .declarator _ _ core suffixes => core.typeNames ++ suffixes.typeNames

theorem Tree.coreNames_subset (shape : Declarator) : shape.coreNames ⊆ namesIn shape := by
  cases shape with
  | declarator pointers pack core suffixes =>
    rw [namesIn_tree]
    show core.typeNames ++ suffixes.typeNames ⊆ pointers.typeNames ++ core.typeNames ++ suffixes.typeNames
    rw [List.append_assoc]
    exact List.subset_append_right ..

instance Covers.core {shape : Declarator} : Covers shape.coreNames shape := ⟨shape.coreNames_subset⟩

instance Covers.optionalSpecifiers {before : List String} {specs : ParsedSpecifiers}
    [covers : Covers before specs] : Covers before specs.type :=
  ⟨covers.subset⟩

instance Covers.specifiersTree {before : List String} {specs : ParsedSpecifiers}
    [Covers before specs] : Covers before specs.tree := by
  unfold ParsedSpecifiers.tree
  infer_instance

/-- What follows a declarator. -/
instance (priority := 10004) IntroducesFor.bindDeclarator {names : β → List String}
    {before : List String} {p : Parser Declarator} {f : Declarator → Parser β}
    [first : IntroducesFor Tree.coreNames [] p]
    [later : ∀ shape, IntroducesFor names (before ++ shape.coreNames) (f shape)] :
    IntroducesFor names before (p >>= f) :=
  andThenOf first fun shape _ => later shape

/-- The parser of a symbol introduces what becomes known. -/
def Symbol.Introducing : (symbol : Symbol) → Parser symbol.Value → Prop
  | .declaration _, (p : Parser (Option Declaration)) => Introduces [] p
  | .statement, (p : Parser Statement) => Introduces [] p
  | .clause, (p : Parser Expr) | .assignment, (p : Parser Expr) | .binary _, (p : Parser Expr)
  | .cast, (p : Parser Expr) | .unary, (p : Parser Expr) => Introduces [] p
  | .specifiers _, (p : Parser ParsedSpecifiers) => Introduces [] p
  | .declarator _, (p : Parser Declarator) => IntroducesFor Tree.coreNames [] p
  | .name _, (p : Parser Name) => Introduces [] p
  | .templateParameters, (p : Parser (List (Tree .templateParameter))) => Introduces [] p

namespace Grammar

/-- All symbols of the grammar introduce what becomes known. -/
class Introducing (g : Grammar Parser) : Prop where
  introduces (symbol : Symbol) : symbol.Introducing (g.parse symbol)

variable {g : Grammar Parser} [introducing : g.Introducing]

instance (scope : Scope) : Introduces [] (g.declaration scope) :=
  introducing.introduces (.declaration scope)

instance : Introduces [] g.statement := introducing.introduces .statement

instance : Introduces [] g.clause := introducing.introduces .clause

instance : Introduces [] g.assignment := introducing.introduces .assignment

instance (level : Nat) : Introduces [] (g.binary level) := introducing.introduces (.binary level)

instance : Introduces [] g.cast := introducing.introduces .cast

instance : Introduces [] g.unary := introducing.introduces .unary

instance (scope : Scope) : Introduces [] (g.specifiers scope) :=
  introducing.introduces (.specifiers scope)

instance (mode : DeclaratorMode) : IntroducesFor Tree.coreNames [] (g.declarator mode) :=
  introducing.introduces (.declarator mode)

instance : Introduces [] g.name := introducing.introduces (.name false)

instance : Introduces [] g.nameInExpression := introducing.introduces (.name true)

instance : Introduces [] g.templateParameters := introducing.introduces .templateParameters

instance [HasNodes α] {item : Parser α} [Introduces [] item] : Introduces [] (g.separated item) := by
  unfold Grammar.separated
  infer_instance

omit introducing in
/-- Items that do not introduce all their names yet. -/
theorem separated_introduces {names : α → List String} {item : Parser α}
    (each : IntroducesFor names [] item) : IntroducesFor (List.flatMap names) [] (g.separated item) := by
  let ofStep : List α ⊕ List α → List String := Sum.elim (List.flatMap names) (List.flatMap names)
  refine @IntroducesFor.repeated _ _ ofStep _ (fun items => ?_) _ []
  refine .andThenOf each fun item _ => .andThenPlain inferInstance fun more => ?_
  have grown : items.flatMap names ++ names item ⊆ (items ++ [item]).flatMap names := by simp
  split
  · exact .answer grown
  · exact .answer grown

instance [HasNodes α] {item : Parser (Option α)} [Introduces [] item] (close : Punctuator) :
    Introduces [] (g.itemsUntil close item) := by
  unfold Grammar.itemsUntil
  infer_instance

instance (left : Expr) : Introduces (namesIn left) (g.commaStep left) := by
  unfold Grammar.commaStep
  infer_instance

instance : Introduces [] g.expression := by
  unfold Grammar.expression
  infer_instance

instance : Introduces [] g.bracketed := by
  unfold Grammar.bracketed
  infer_instance

instance : Introduces [] g.conditional := by
  unfold Grammar.conditional
  infer_instance

instance (close : Punctuator) (items : List Expr) :
    Introduces (namesIn items) (g.listStep close items) := by
  unfold Grammar.listStep
  infer_instance

instance (close : Punctuator) : Introduces [] (g.expressionList close) := by
  unfold Grammar.expressionList
  infer_instance

instance : Introduces [] g.bracedList := by
  unfold Grammar.bracedList
  infer_instance

instance : Introduces [] g.expressionOrBraced := by
  unfold Grammar.expressionOrBraced
  infer_instance

instance certainTypeSpecifier_introduces : Introduces [] g.certainTypeSpecifier := by
  unfold Grammar.certainTypeSpecifier
  refine .byPlace fun there => .andThen inferInstance fun specs => ?_
  have covers : Covers (namesIn specs) specs.type := inferInstance
  cases found : specs.type with
  | none => infer_instance
  | some type =>
    have covers : Covers (namesIn specs) type := Covers.some_iff.mp (found ▸ covers)
    infer_instance

instance : Introduces [] g.typeSpecifier := by
  unfold Grammar.typeSpecifier
  infer_instance

instance : Introduces [] g.certainTypeId := by
  unfold Grammar.certainTypeId
  infer_instance

instance : Introduces [] g.typeId := by
  unfold Grammar.typeId
  infer_instance

instance : Introduces [] g.parenthesizedType := by
  unfold Grammar.parenthesizedType
  infer_instance

end Grammar

end CppSyntax
