import CppSyntax.Proofs.Statement.Lines

/-!
Branches that dangle. An `else` belongs to the nearest `if` before it that has none, so a first branch
that ends in such an `if` has to stand in braces if an `else` follows.
-/

namespace CppSyntax

/-- What the tree ends with is an `if` without `else`. The bodies of loops and choices and the branches
behind an `else` stand at the end of a statement; the body of a `do` does not. -/
inductive Tree.LeavesIfOpen : {c : Category} → Tree c → Prop where
  | statement {place : Placement} {form : Tree .statementForm} (inner : LeavesIfOpen form) :
      LeavesIfOpen (.statement place form)
  | lone {isConstexpr : Bool} {init : Part .statement} {test : Tree .condition}
      {branch : Statement} : LeavesIfOpen (.ifStatement isConstexpr init test branch .absent)
  | otherwise {isConstexpr : Bool} {init : Part .statement} {test : Tree .condition}
      {branch other : Statement} (inner : LeavesIfOpen other) :
      LeavesIfOpen (.ifStatement isConstexpr init test branch (.present other))
  | counted {init : Part .statement} {test : Part .condition} {step : Part .expression}
      {body : Statement} (inner : LeavesIfOpen body) :
      LeavesIfOpen (.forStatement init test step body)
  | ranged {init : Part .statement} {element : Declaration} {range : Expr} {body : Statement}
      (inner : LeavesIfOpen body) : LeavesIfOpen (.rangeFor init element range body)
  | repeated {test : Tree .condition} {body : Statement} (inner : LeavesIfOpen body) :
      LeavesIfOpen (.whileStatement test body)
  | chosen {init : Part .statement} {test : Tree .condition} {body : Statement}
      (inner : LeavesIfOpen body) : LeavesIfOpen (.switchStatement init test body)

theorem Tree.endsInOpenIf_iff {c : Category} (tree : Tree c) :
    tree.endsInOpenIf = true ↔ tree.LeavesIfOpen := by
  constructor
  · intro ends
    fun_induction Tree.endsInOpenIf tree with
    | case1 place form ih => exact .statement (ih ends)
    | case2 => exact .lone
    | case3 _ _ _ _ _ ih => exact .otherwise (ih ends)
    | case4 _ _ _ _ ih => exact .counted (ih ends)
    | case5 _ _ _ _ ih => exact .ranged (ih ends)
    | case6 _ _ ih => exact .repeated (ih ends)
    | case7 _ _ _ ih => exact .chosen (ih ends)
    | case8 => cases ends
  · intro leaves
    induction leaves with
    | lone => rfl
    | statement _ ih | otherwise _ ih | counted _ ih | ranged _ ih | repeated _ ih | chosen _ ih =>
      exact ih

mutual

/-- The tree with the branches that dangle in braces: each first branch that ends in an `if` without
`else` although an `else` follows it. -/
def Tree.repaired {c : Category} : Tree c → Tree c
  | .statement place form => .statement place form.repaired
  | .block statements closing => .block statements.repaired closing
  | .handler param body => .handler param body.repaired
  | .compound body => .compound body.repaired
  | .ifStatement isConstexpr init test thenBranch elseBranch =>
    let branch := thenBranch.repaired
    .ifStatement isConstexpr init test
      (if elseBranch.isPresent && thenBranch.endsInOpenIf then branch.inBraces else branch)
      elseBranch.repaired
  | .forStatement init test step body => .forStatement init test step body.repaired
  | .rangeFor init element range body => .rangeFor init element range body.repaired
  | .whileStatement test body => .whileStatement test body.repaired
  | .doStatement body test => .doStatement body.repaired test
  | .switchStatement init test body => .switchStatement init test body.repaired
  | .tryStatement body handlers => .tryStatement body.repaired handlers.repaired
  | tree => tree
termination_by structural tree => tree

def Trees.repaired {c : Category} : Trees c → Trees c
  | .nil => .nil
  | .cons head tail => .cons head.repaired tail.repaired
termination_by structural trees => trees

def Part.repaired {c : Category} : Part c → Part c
  | .absent => .absent
  | .present inner => .present inner.repaired
termination_by structural part => part

end

theorem Trees.repaired_ofList {c : Category} (items : List (Tree c)) :
    (Trees.ofList items).repaired = .ofList (items.map Tree.repaired) := by
  induction items with
  | nil => rfl
  | cons head tail ih =>
    show Trees.cons head.repaired (Trees.ofList tail).repaired = _
    rw [ih]
    rfl

end CppSyntax
