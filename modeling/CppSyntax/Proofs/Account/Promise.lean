import CppSyntax.Proofs.Account.Contract

/-!
What every symbol of the grammar accounts for, and the rules that several areas share. A declaration
is read as nothing only at a stray semicolon, which an error may name afterwards.
-/

set_option synthInstance.maxSize 4096

namespace CppSyntax

open CppSyntax.Parser

/-- The parser of a symbol accounts for what it does. -/
def Symbol.Accountable (place : State) (known : List String) :
    (symbol : Symbol) → Parser symbol.Value → Prop
  | .declaration _, (p : Parser (Option Declaration)) => Accounts place known p
  | .statement, (p : Parser Statement) => Accounts place known p
  | .clause, (p : Parser Expr) | .assignment, (p : Parser Expr) | .binary _, (p : Parser Expr)
  | .cast, (p : Parser Expr) | .unary, (p : Parser Expr) => Accounts place known p
  | .specifiers _, (p : Parser ParsedSpecifiers) => Accounts place known p
  | .declarator _, (p : Parser Declarator) => Accounts place known p
  | .name _, (p : Parser Name) => Accounts place known p
  | .templateParameters, (p : Parser (List (Tree .templateParameter))) => Accounts place known p

namespace Grammar

/-- All symbols of the grammar account for what they do, and no declaration is read only where a
semicolon stands. -/
class Accountable (g : Grammar Parser) : Prop where
  accounts (place : State) (known : List String) (symbol : Symbol) :
    symbol.Accountable place known (g.parse symbol)
  stray (scope : Scope) {context : Context} {state reached : State} :
    g.declaration scope context state = .done none reached → state.isAt .semicolon = true

variable {g : Grammar Parser} [accountable : g.Accountable] {place : State} {known : List String}

instance (scope : Scope) : Accounts place known (g.declaration scope) :=
  accountable.accounts place known (.declaration scope)

instance : Accounts place known g.statement := accountable.accounts place known .statement

instance : Accounts place known g.clause := accountable.accounts place known .clause

instance : Accounts place known g.assignment := accountable.accounts place known .assignment

instance (level : Nat) : Accounts place known (g.binary level) :=
  accountable.accounts place known (.binary level)

instance : Accounts place known g.cast := accountable.accounts place known .cast

instance : Accounts place known g.unary := accountable.accounts place known .unary

instance (scope : Scope) : Accounts place known (g.specifiers scope) :=
  accountable.accounts place known (.specifiers scope)

instance (mode : DeclaratorMode) : Accounts place known (g.declarator mode) :=
  accountable.accounts place known (.declarator mode)

instance : Accounts place known g.name := accountable.accounts place known (.name false)

instance : Accounts place known g.nameInExpression := accountable.accounts place known (.name true)

instance : Accounts place known g.templateParameters :=
  accountable.accounts place known .templateParameters

instance [HasNodes α] {item : Parser α} [∀ known, Accounts place known item] :
    Accounts place known (g.separated item) := by
  unfold Grammar.separated
  infer_instance

omit accountable in
/-- Items of which not all names are known behind them. -/
theorem separated_names {names : α → List String} {item : Parser α}
    (each : ∀ known, AccountsFor names place known item) :
    AccountsFor (List.flatMap names) place known (g.separated item) := by
  let ofStep : List α ⊕ List α → List String := Sum.elim (List.flatMap names) (List.flatMap names)
  refine @AccountsFor.repeated _ _ place known ofStep _ (fun items => ?_) g.fuel _ (List.nil_subset _)
  refine .andThenOf (each _) fun item => .andThenPlain inferInstance fun more => ?_
  have grown : (items ++ [item]).flatMap names ⊆ known ++ items.flatMap names ++ names item := by
    simp
  split
  · exact .answer grown
  · exact .answer grown

instance [HasNodes α] {item : Parser (Option α)} [∀ known, Accounts place known item]
    (close : Punctuator) : Accounts place known (g.itemsUntil close item) := by
  unfold Grammar.itemsUntil
  infer_instance

instance (left : Expr) [Known left known] : Accounts place known (g.commaStep left) := by
  unfold Grammar.commaStep
  infer_instance

instance : Accounts place known g.expression := by
  unfold Grammar.expression
  infer_instance

instance : Accounts place known g.bracketed := by
  unfold Grammar.bracketed
  infer_instance

instance : Accounts place known g.conditional := by
  unfold Grammar.conditional
  infer_instance

instance (close : Punctuator) (items : List Expr) [Known items known] :
    Accounts place known (g.listStep close items) := by
  unfold Grammar.listStep
  infer_instance

instance (close : Punctuator) : Accounts place known (g.expressionList close) := by
  unfold Grammar.expressionList
  infer_instance

instance : Accounts place known g.bracedList := by
  unfold Grammar.bracedList
  infer_instance

instance : Accounts place known g.expressionOrBraced := by
  unfold Grammar.expressionOrBraced
  infer_instance

instance certainTypeSpecifier_accounts : Accounts place known g.certainTypeSpecifier := by
  unfold Grammar.certainTypeSpecifier
  refine .byPlace fun there => ?_
  refine .andThen inferInstance fun specs => ?_
  have holds : Known specs.type (known ++ namesIn specs) := ⟨List.subset_append_right ..⟩
  cases found : specs.type with
  | none => infer_instance
  | some type =>
    have holds : Known type (known ++ namesIn specs) := Known.some_iff.mp (found ▸ holds)
    infer_instance

instance : Accounts place known g.typeSpecifier := by
  unfold Grammar.typeSpecifier
  infer_instance

instance : Accounts place known g.certainTypeId := by
  unfold Grammar.certainTypeId
  infer_instance

instance : Accounts place known g.typeId := by
  unfold Grammar.typeId
  infer_instance

instance : Accounts place known g.parenthesizedType := by
  unfold Grammar.parenthesizedType
  infer_instance

end Grammar

end CppSyntax
