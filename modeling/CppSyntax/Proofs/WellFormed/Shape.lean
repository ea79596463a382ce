import CppSyntax.Keyword
import CppSyntax.Tree.Parts
import CppSyntax.Grammar.Specifier

/-!
The nodes within a node, and what the writer relies on in a tree without checking it. The condition is
on single nodes; a tree is well formed when all nodes within it meet it. That only identifiers take
template arguments is part of the type of trees.
-/

namespace CppSyntax

namespace Node

/-- The node is the given one or lies below it. -/
inductive Within (node : Node) : Node → Prop where
  | self : Within node node
  | under {parent child : Node} (among : child ∈ parent.2.parts) (inside : Within node child) :
      Within node parent

/-- The condition holds of all nodes within the given one. -/
def Everywhere (holds : Node → Prop) (root : Node) : Prop :=
  ∀ node : Node, node.Within root → holds node

theorem everywhere_iff {holds : Node → Prop} {root : Node} :
    root.Everywhere holds ↔
      holds root ∧ ∀ child ∈ root.2.parts, child.Everywhere holds := by
  constructor
  · intro everywhere
    exact ⟨everywhere root .self, fun child among node inside =>
      everywhere node (.under among inside)⟩
  · rintro ⟨atRoot, below⟩ node inside
    cases inside with
    | self => exact atRoot
    | under among inside => exact below _ among node inside

end Node

namespace Tree

def pointerOperators : Declarator → List (Tree .pointerOperator)
  | .declarator pointers _ _ _ => pointers.toList

def specifiedType? : Tree .specifiers → Option TypeSpecifier
  | .specifiers _ _ _ type => type.toOption

/-- The names of a structured binding, looking through nested declarators. -/
def boundNames {c : Category} : Tree c → List String
  | .bindings names => names
  | .nestedDeclarator inner => inner.boundNames
  | .declarator _ _ core _ => core.boundNames
  | _ => []
termination_by structural tree => tree

def hasBitWidth : Tree .initDeclarator → Bool
  | .initDeclarator _ bitWidth _ => bitWidth.isPresent

/-- Whether a declaration has its place only among the members of a class: an access label or a
bit-field, possibly behind template headers. -/
def isMemberOnly {c : Category} : Tree c → Bool
  | .declaration _ form => form.isMemberOnly
  | .template _ _ inner => inner.isMemberOnly
  | .accessLabel _ => true
  | .variable _ shapes => shapes.toList.any (·.hasBitWidth)
  | _ => false
termination_by structural tree => tree

/-- What the writer relies on at a node. -/
@[reducible] def Fits {c : Category} : Tree c → Prop
  | .qualifiedName _ segments =>
    segments.toList ≠ [] ∧ ∀ segment ∈ segments.toList.dropLast, segment.plainIdent?.isSome
  | .builtinType _ words =>
    words ≠ [] ∧ ∀ word ∈ words, ∃ keyword : Keyword, keyword.isBuiltinType ∧ word = keyword.spelling
  | .nestedDeclarator inner => inner.pointerOperators ≠ []
  | .parameter specs _ _ => specs.specifiedType?.isSome
  | .variable specs shapes => shapes.toList ≠ [] → specs.specifiedType?.isSome
  | .initDeclarator shape bitWidth _ =>
    shape.declaredName?.isSome ∨ shape.boundNames ≠ [] ∨ bitWidth.isPresent
  | .function _ _ _ _ _ _ inits body => inits.toList ≠ [] → ∃ block, body = .defined block
  | .tryStatement _ handlers => handlers.toList ≠ []
  | .fold _ left right => left.isPresent ∨ right.isPresent
  | .cast kind target _ =>
    kind = .functional → ∃ cv words, target = .typeId (.builtinType cv words) plainDeclarator
  | .unit declarations _ => ∀ inner ∈ declarations.toList, ¬ inner.isMemberOnly
  | .namespaceBlock _ _ members _ => ∀ inner ∈ members.toList, ¬ inner.isMemberOnly
  | .linkageBlock _ members => ∀ inner ∈ members.toList, ¬ inner.isMemberOnly
  | .linkageSingle _ inner => ¬ inner.isMemberOnly
  | .declarationStatement inner => ¬ inner.isMemberOnly
  | .testDeclaration inner => ¬ inner.isMemberOnly
  | .rangeFor _ element _ _ => ¬ element.isMemberOnly
  | _ => True

/-- All nodes within the tree fit. -/
def WellFormed {c : Category} (tree : Tree c) : Prop := tree.node.Everywhere (·.2.Fits)

theorem wellFormed_iff {c : Category} {tree : Tree c} :
    tree.WellFormed ↔ tree.Fits ∧ ∀ child ∈ tree.parts, child.2.WellFormed :=
  Node.everywhere_iff

end Tree

end CppSyntax
