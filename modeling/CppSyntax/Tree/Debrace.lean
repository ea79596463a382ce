import CppSyntax.Tree.Basic

/-!
Removing braces. In the bodies of functions, a branch or a loop body that is a block of one statement
becomes that statement, except for a declaration, whose scope the block limits. The bodies of lambdas
and of classes defined inside statements stay as they are.
-/

namespace CppSyntax

def Tree.isDeclarationStatement : Statement → Bool
  | .statement _ (.declarationStatement _) => true
  | _ => false

/-- The only statement of a block, if it may stand without braces. -/
def Tree.unbraced {c : Category} : Tree c → Tree c
  | .statement place (.compound (.block (.cons only .nil) closing)) =>
    if only.isDeclarationStatement then
      .statement place (.compound (.block (.cons only .nil) closing))
    else only
  | tree => tree

mutual

/-- The tree without the braces that can be removed. Inner statements come first. -/
def Tree.debraced {c : Category} : Tree c → Tree c
  | .unit declarations closing => .unit declarations.debraced closing
  | .declaration place form => .declaration place form.debraced
  | .namespaceBlock path isInline members closing =>
    .namespaceBlock path isInline members.debraced closing
  | .linkageBlock abi members => .linkageBlock abi members.debraced
  | .linkageSingle abi inner => .linkageSingle abi inner.debraced
  | .template params isInstantiation inner => .template params isInstantiation inner.debraced
  | .classDeclaration definition => .classDeclaration definition.debraced
  | .classSpecifier key attributes alignment title isFinal bases members closing =>
    .classSpecifier key attributes alignment title isFinal bases members.debraced closing
  | .function specs pointers title sig isOverride isFinal inits body =>
    .function specs pointers title sig isOverride isFinal inits body.debraced
  | .defined body => .defined body.debraced
  | .block statements closing => .block statements.debraced closing
  | .statement place form => .statement place form.debraced
  | .compound body => .compound body.debraced
  | .ifStatement isConstexpr init test thenBranch elseBranch =>
    .ifStatement isConstexpr init test thenBranch.debraced.unbraced elseBranch.debraced
  | .forStatement init test step body => .forStatement init test step body.debraced.unbraced
  | .rangeFor init element range body => .rangeFor init element range body.debraced.unbraced
  | .whileStatement test body => .whileStatement test body.debraced.unbraced
  | .doStatement body test => .doStatement body.debraced.unbraced test
  | .switchStatement init test body => .switchStatement init test body.debraced.unbraced
  | .tryStatement body handlers => .tryStatement body.debraced handlers.debraced
  | .handler param body => .handler param body.debraced
  | tree => tree
termination_by structural tree => tree

def Trees.debraced {c : Category} : Trees c → Trees c
  | .nil => .nil
  | .cons head tail => .cons head.debraced tail.debraced
termination_by structural trees => trees

/-- The branch behind an `else`. -/
def Part.debraced {c : Category} : Part c → Part c
  | .absent => .absent
  | .present inner => .present inner.debraced.unbraced
termination_by structural part => part

end

end CppSyntax
