import CppSyntax.Tree.Basic

/-!
How deep a tree is nested. Only constructs that hold others of their sort count: expressions,
statements, and the bodies of namespaces and classes.
-/

namespace CppSyntax

mutual

/-- The number of constructs around the innermost one. -/
def Tree.height {c : Category} : Tree c → Nat
  | .unary _ inner => inner.height + 1
  | .binary _ left right => max left.height right.height + 1
  | .assignment _ target value => max target.height value.height + 1
  | .conditional test thenValue elseValue =>
    max test.height (max thenValue.height elseValue.height) + 1
  | .call callee values => max callee.height values.height + 1
  | .index object position => max object.height position.height + 1
  | .member object _ _ => object.height + 1
  | .cast _ _ inner => inner.height + 1
  | .throwExpression inner => inner.height + 1
  | .fold _ left right => max left.height right.height + 1
  | .expressionStatement value => value.height + 1
  | .compound body => body.height + 1
  | .ifStatement _ init test thenBranch elseBranch =>
    max (max init.height test.height) (max thenBranch.height elseBranch.height) + 1
  | .forStatement init test step body =>
    max (max init.height test.height) (max step.height body.height) + 1
  | .whileStatement test body => max test.height body.height + 1
  | .doStatement body test => max body.height test.height + 1
  | .switchStatement init test body => max (max init.height test.height) body.height + 1
  | .caseLabel value => value.height + 1
  | .returnStatement value => value.height + 1
  | .tryStatement body handlers => max body.height handlers.height + 1
  | .testExpression value => value.height
  | .handler _ body => body.height
  | .block statements _ => statements.height
  | .statement _ form => form.height
  | .namespaceBlock _ _ members _ => members.height + 1
  | .classDeclaration definition => definition.height + 1
  | .classSpecifier _ _ _ _ _ _ members _ => members.height
  | .declaration _ form => form.height
  | .unit declarations _ => declarations.height
  | _ => 0
termination_by structural tree => tree

def Trees.height {c : Category} : Trees c → Nat
  | .nil => 0
  | .cons head tail => max head.height tail.height
termination_by structural trees => trees

def Part.height {c : Category} : Part c → Nat
  | .absent => 0
  | .present inner => inner.height
termination_by structural part => part

end

theorem Trees.height_le_of_mem {c : Category} {trees : Trees c} {tree : Tree c}
    (member : tree ∈ trees.toList) : tree.height ≤ trees.height := by
  match trees, member with
  | .cons head tail, member =>
    rcases List.mem_cons.mp member with rfl | later
    · exact Nat.le_max_left _ _
    · exact Nat.le_trans (height_le_of_mem later) (Nat.le_max_right _ _)

end CppSyntax
