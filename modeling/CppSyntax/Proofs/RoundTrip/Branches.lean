import CppSyntax.Proofs.RoundTrip.Height
import CppSyntax.Proofs.RoundTrip.Expressions
import CppSyntax.Proofs.Statement.Drawing
import CppSyntax.Proofs.Statement.Repair

/-!
Statements whose expressions are numbers keep their structure when a function around them is rendered
and read again, except that branches that dangle stand in braces. What they return need not be a number.
-/

namespace CppSyntax

open CppSyntax.Tree

mutual

/-- Statements of all forms whose expressions are numbers, besides returned ones with no names or with
simple names only. No comments stand with the statements. -/
inductive Tree.OfNumbers : Statement → Prop where
  | intro {place : Placement} {form : Tree .statementForm} (noLeading : place.leadingComments = [])
      (noTrailing : place.trailingComment = none) (inner : FormOfNumbers form) :
      OfNumbers (.statement place form)

inductive Tree.FormOfNumbers : Tree .statementForm → Prop where
  | nothing : FormOfNumbers .emptyStatement
  | breaking : FormOfNumbers .breakStatement
  | continuing : FormOfNumbers .continueStatement
  | defaultLabel : FormOfNumbers .defaultLabel
  | goto {target : String} (valid : isIdentifier target = true) : FormOfNumbers (.goto target)
  | label {ident : String} (valid : isIdentifier ident = true) : FormOfNumbers (.namedLabel ident)
  | caseLabel {digits : String} (decimal : isDecimal digits = true) :
      FormOfNumbers (.caseLabel (.integer digits))
  | evaluating {digits : String} (decimal : isDecimal digits = true) :
      FormOfNumbers (.expressionStatement (.integer digits))
  | returningNothing : FormOfNumbers (.returnStatement .absent)
  | returning {value : Expr} (nameless : value.Nameless) :
      FormOfNumbers (.returnStatement (.present value))
  | returningNames {value : Expr} (names : value.OverNames) :
      FormOfNumbers (.returnStatement (.present value))
  | compound {statements : Trees .statement} (inside : ∀ inner ∈ statements.toList, OfNumbers inner) :
      FormOfNumbers (.compound (.block statements []))
  | branching {isConstexpr : Bool} {init : Part .statement} {number : Option String}
      {digits : String} {branch : Statement} (before : IsNumberBefore init number)
      (decimal : isDecimal digits = true) (inner : OfNumbers branch) :
      FormOfNumbers (.ifStatement isConstexpr init (.integerTest digits) branch .absent)
  | branchingBoth {isConstexpr : Bool} {init : Part .statement} {number : Option String}
      {digits : String} {branch other : Statement} (before : IsNumberBefore init number)
      (decimal : isDecimal digits = true) (first : OfNumbers branch) (second : OfNumbers other) :
      FormOfNumbers (.ifStatement isConstexpr init (.integerTest digits) branch (.present other))
  | repeating {digits : String} {body : Statement} (decimal : isDecimal digits = true)
      (inner : OfNumbers body) : FormOfNumbers (.whileStatement (.integerTest digits) body)
  | doing {digits : String} {body : Statement} (decimal : isDecimal digits = true)
      (inner : OfNumbers body) : FormOfNumbers (.doStatement body (.integer digits))
  | counting {init : Part .statement} {start test step : Option String} {body : Statement}
      (before : IsNumberBefore init start) (decimalTest : ∀ digits ∈ test, isDecimal digits = true)
      (decimalStep : ∀ digits ∈ step, isDecimal digits = true) (inner : OfNumbers body) :
      FormOfNumbers (.forStatement init (.ofOption (test.map .integerTest))
        (.ofOption (step.map .integer)) body)
  | switching {init : Part .statement} {number : Option String} {digits : String}
      {body : Statement} (before : IsNumberBefore init number) (decimal : isDecimal digits = true)
      (inner : OfNumbers body) :
      FormOfNumbers (.switchStatement init (.integerTest digits) body)
  | trying {statements first : Trees .statement} {others : List (Trees .statement)}
      (inside : ∀ inner ∈ statements.toList, OfNumbers inner)
      (caught : ∀ statements ∈ first :: others, ∀ inner ∈ statements.toList, OfNumbers inner) :
      FormOfNumbers (.tryStatement (.block statements [])
        (.ofList ((first :: others).map handlerOf)))

end

/-- What a statement is read back as: the repaired one, wherever it has stood. -/
def Tree.readBack (body : Statement) : Statement := body.repaired.erase

theorem Trees.readBack_eq (statements : Trees .statement) :
    statements.repaired.erase = .ofList (statements.toList.map Tree.readBack) := by
  rw [← statements.ofList_toList, Trees.repaired_ofList, Trees.erase_ofList, Trees.toList_ofList,
    List.map_map]
  rfl

private theorem handlers_readBack (bodies : List (Trees .statement)) :
    (Trees.ofList (bodies.map handlerOf)).repaired.erase = .ofList (bodies.map fun statements =>
      handlerOf (.ofList (statements.toList.map Tree.readBack))) := by
  rw [Trees.repaired_ofList, Trees.erase_ofList, List.map_map, List.map_map]
  refine congrArg Trees.ofList (List.map_congr_left fun statements _ => ?_)
  exact congrArg handlerOf (Trees.readBack_eq statements)

private theorem handlerOf_height_le {bodies : List (Trees .statement)} {statements : Trees .statement}
    (member : statements ∈ bodies) :
    statements.height ≤ (Trees.ofList (bodies.map handlerOf)).height := by
  have inside : handlerOf statements ∈ (Trees.ofList (bodies.map handlerOf)).toList := by
    rw [Trees.toList_ofList]
    exact List.mem_map_of_mem member
  exact Trees.height_le_of_mem inside

/-- Statements in a row are read back if each of them is. -/
theorem Trees.stated_mono {statements : Trees .statement} {nest : Nat}
    (stated : ∀ inner ∈ statements.toList, inner.StatedAs (2 * inner.height + 1) inner.readBack)
    (le : 2 * statements.height + 1 ≤ nest) :
    ∀ inner ∈ statements.toList, inner.StatedAs nest inner.readBack := by
  intro inner member
  have less := Trees.height_le_of_mem member
  exact (stated inner member).mono (by omega)

theorem Tree.FormOfNumbers.noDirective {form : Tree .statementForm} (numbers : form.FormOfNumbers) :
    Render.isDirectiveStatement form = false := by
  cases numbers <;> rfl

mutual

/-- A statement is read back repaired, with room for two levels for each level of its height. -/
theorem Tree.OfNumbers.statedAs : {body : Statement} → body.OfNumbers →
    body.StatedAs (2 * body.height + 1) body.readBack
  | _, .intro noLeading noTrailing inner =>
    ⟨_, _, _, rfl, rfl, ⟨noLeading, noTrailing, inner.noDirective⟩, inner.stated⟩

theorem Tree.FormOfNumbers.stated : {form : Tree .statementForm} → form.FormOfNumbers →
    Tree.Stated (2 * form.height + 1) form form.repaired.erase
  | _, .nothing => .nothing
  | _, .breaking => .breaking
  | _, .continuing => .continuing
  | _, .defaultLabel => .defaultLabel
  | _, .goto valid => .goto valid
  | _, .label valid => .label valid
  | _, .caseLabel decimal => (Tree.Stated.caseLabel decimal).mono (Nat.le_succ 2)
  | _, .evaluating decimal => (Tree.Stated.evaluating decimal).mono (Nat.le_succ 2)
  | _, .returningNothing => Tree.Stated.returningNothing.mono (by decide)
  | _, .returning nameless => nameless.written.standsLast.returned
  | _, .returningNames names => names.laidOut.standsLast.returned
  | .compound (.block _ _), .compound inside => by
    have stated := Trees.stated_mono (fun inner member => (inside inner member).statedAs)
      (Nat.le_refl _)
    have whole := Tree.Stated.compound stated
    rw [← Trees.readBack_eq] at whole
    exact whole.mono (Nat.le_succ _)
  | .ifStatement isConstexpr init _ branch .absent, .branching before decimal inner => by
    have whole : Tree.Stated (2 * branch.height + 2) (.ifStatement isConstexpr ..) _ :=
      Tree.Stated.branching before decimal inner.statedAs
    refine whole.mono ?_
    show _ ≤ 2 * (max (max init.height 0) (max branch.height 0) + 1) + 1
    omega
  | .ifStatement isConstexpr init _ branch (.present other),
    .branchingBoth before decimal first second => by
    let nest := 2 * max branch.height other.height + 1
    have inFirst : branch.StatedAs nest branch.readBack := first.statedAs.mono (by omega)
    have inSecond : other.StatedAs (nest + 1) other.readBack := second.statedAs.mono (by omega)
    have whole : Tree.Stated (nest + 2) (.ifStatement isConstexpr ..) _ :=
      Tree.Stated.branchingBoth before decimal inFirst inSecond
    have shape : Tree.erase (if branch.endsInOpenIf then branch.repaired.inBraces else branch.repaired) =
        if branch.endsInOpenIf then branch.readBack.inBraces else branch.readBack := by
      cases branch.endsInOpenIf <;> rfl
    rw [← shape] at whole
    refine whole.mono ?_
    show _ ≤ 2 * (max (max init.height 0) (max branch.height other.height) + 1) + 1
    omega
  | .whileStatement _ body, .repeating decimal inner => by
    have whole : Tree.Stated (2 * body.height + 2) _ _ :=
      Tree.Stated.repeating decimal inner.statedAs
    refine whole.mono ?_
    show _ ≤ 2 * (max 0 body.height + 1) + 1
    omega
  | .doStatement body _, .doing decimal inner => by
    have whole : Tree.Stated (2 * body.height + 2) _ _ := Tree.Stated.doing decimal inner.statedAs
    refine whole.mono ?_
    show _ ≤ 2 * (max body.height 0 + 1) + 1
    omega
  | _, @FormOfNumbers.counting init _ test step body before decimalTest decimalStep inner => by
    have whole : Tree.Stated (2 * body.height + 2) _ _ :=
      Tree.Stated.counting before decimalTest decimalStep inner.statedAs
    have shape : (Tree.forStatement init (.ofOption (test.map .integerTest))
        (.ofOption (step.map .integer)) body).repaired.erase = .forStatement init.erase
          (.ofOption (test.map .integerTest)) (.ofOption (step.map .integer)) body.readBack := by
      cases test <;> cases step <;> rfl
    rw [shape]
    refine whole.mono ?_
    show _ ≤ 2 * (max (max _ _) (max _ body.height) + 1) + 1
    omega
  | .switchStatement init _ body, .switching before decimal inner => by
    have whole : Tree.Stated (2 * body.height + 2) _ _ :=
      Tree.Stated.switching before decimal inner.statedAs
    refine whole.mono ?_
    show _ ≤ 2 * (max (max init.height 0) body.height + 1) + 1
    omega
  | _, @FormOfNumbers.trying statements first others inside caught => by
    let handlers : Trees .handler := .ofList ((first :: others).map handlerOf)
    let nest := 2 * max statements.height handlers.height + 1
    have inBody : ∀ inner ∈ statements.toList, inner.StatedAs nest inner.readBack :=
      Trees.stated_mono (fun inner member => (inside inner member).statedAs) (by omega)
    have inHandlers : ∀ caughtBy ∈ first :: others, ∀ inner ∈ caughtBy.toList,
        inner.StatedAs nest inner.readBack := by
      intro caughtBy member
      have less : caughtBy.height ≤ handlers.height := handlerOf_height_le member
      exact Trees.stated_mono (fun inner inside => (caught caughtBy member inner inside).statedAs)
        (by omega)
    have whole := Tree.Stated.trying inBody inHandlers
    rw [← handlers_readBack, ← Trees.readBack_eq] at whole
    refine whole.mono ?_
    show _ ≤ 2 * (max statements.height handlers.height + 1) + 1
    omega

end

/-- A function around a statement whose expressions are numbers is read back with the structure of the
repaired statement. There may be an error instead, but only if the statement is higher than 100. -/
theorem Tree.OfNumbers.repairs {body : Statement} (numbers : body.OfNumbers) (options : RenderOptions) :
    (∃ again, parse (render options (.inFunction body)) = .ok again ∧
      again.sameStructure (.inFunction body.repaired) = true) ∨
    (100 < body.height ∧ ∃ error, parse (render options (.inFunction body)) = .error error) := by
  obtain ⟨place, form, shape, rfl, same, bare, stated⟩ := numbers.statedAs
  rcases stated.roundtrip bare options with ⟨again, read, alike⟩ | ⟨deep, failed⟩
  · refine .inl ⟨again, read, Tree.sameStructure_iff.mpr ?_⟩
    rw [alike, ← same]
    rfl
  · refine .inr ⟨?_, failed⟩
    simp only [Parser.nestingLimit] at deep
    omega

/-- The inner `if` ends the body of the loop, so the loop stands in braces before the `else`. -/
theorem Tree.OfNumbers.repairs_loop :
    let lone : Statement := .statement .erased
      (.ifStatement false .absent (.integerTest "2") (.statement .erased .breakStatement) .absent)
    let loop : Statement := .statement .erased (.whileStatement (.integerTest "1") lone)
    let body : Statement := .statement .erased (.ifStatement false .absent (.integerTest "0") loop
      (.present (.statement .erased .emptyStatement)))
    body.repaired = .statement .erased (.ifStatement false .absent (.integerTest "0") loop.inBraces
      (.present (.statement .erased .emptyStatement))) ∧
    ∃ again, parse (render .standard (.inFunction body)) = .ok again ∧
      again.sameStructure (.inFunction body.repaired) = true := by
  intro lone loop body
  have inLone : lone.OfNumbers :=
    .intro rfl rfl (.branching .absent (by decide) (.intro rfl rfl .breaking))
  have inLoop : loop.OfNumbers := .intro rfl rfl (.repeating (by decide) inLone)
  have inBody : body.OfNumbers :=
    .intro rfl rfl (.branchingBoth .absent (by decide) inLoop (.intro rfl rfl .nothing))
  refine ⟨rfl, ?_⟩
  rcases Tree.OfNumbers.repairs inBody .standard with read | ⟨high, _⟩
  · exact read
  · exact absurd high (by decide)

end CppSyntax
