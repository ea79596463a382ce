import CppSyntax.Render.Unit
import CppSyntax.Tree.Parts

/-!
Texts that are too long. A text is built in memory before any of it is written, and there is a length
that no text in memory can have; the width of an indentation is the only thing that makes a text that
long out of a source that is not.
-/

namespace CppSyntax

/-- Whether a member of a class has a line that is indented with the others. Directives stand at the
margin of the text, and access labels as far left as the head of the class. -/
def Tree.indentsAsMember : Declaration → Bool
  | .declaration place (.directive _) | .declaration place (.accessLabel _) =>
    !place.leadingComments.isEmpty
  | _ => true

/-- Whether a statement of a block has a line that is indented with the others. -/
def Tree.indentsAsItem : Statement → Bool
  | .statement place form => !place.leadingComments.isEmpty || !Render.isDirectiveStatement form

/-- Whether a line stands deeper than the node that it belongs to. -/
def Tree.indentsLine {c : Category} : Tree c → Bool
  | .block statements closing =>
    statements.toList.any Tree.indentsAsItem || !closing.isEmpty
  | .classSpecifier _ _ _ _ _ _ members closing =>
    members.toList.any Tree.indentsAsMember || !closing.isEmpty
  | .enumSpecifier _ _ _ enumerators => !enumerators.toList.isEmpty
  | _ => false

/-- The nodes directly below a node that are part of its text. Member initializers are written before
a body only, the parameters of a template not before an instantiation, and specifiers not without a
declarator behind them. -/
def Tree.written {c : Category} : Tree c → List Node
  | .function specs pointers title sig _ _ inits (.defined body) =>
    [specs.node] ++ pointers.nodes ++ [title.node, sig.node] ++ inits.nodes ++
      [(Tree.defined body).node]
  | .function specs pointers title sig _ _ _ body =>
    [specs.node] ++ pointers.nodes ++ [title.node, sig.node] ++ [body.node]
  | .template _ true inner => [inner.node]
  | .typedef _ .nil => []
  | tree => tree.parts

theorem Tree.written_subset {c : Category} (tree : Tree c) : tree.written ⊆ tree.parts := by
  unfold written
  split
  · exact List.Subset.refl _
  · simp [Tree.parts]
  · simp [Tree.parts]
  · exact List.nil_subset _
  · exact List.Subset.refl _

/-- Whether a line of the text of a node stands deeper than its first one. -/
def Node.hasIndentedLine (node : Node) : Bool :=
  node.2.indentsLine || node.2.written.attach.any fun child => hasIndentedLine child.1
termination_by sizeOf node.2
decreasing_by exact Tree.sizeOf_lt (Tree.written_subset _ child.2)

/-- The most bytes that a text in memory can have. -/
def textCapacity : Nat := UInt64.size / 2 - 1

/-- Whether the text of a unit is too long. It is not built where one indentation is too long already. -/
def overflows (options : RenderOptions) (unit : TranslationUnit) : Bool :=
  (textCapacity < options.indentWidth && unit.node.hasIndentedLine) ||
    textCapacity < (render options unit).utf8ByteSize

/-- The text of a unit, unless it is too long. -/
def render? (options : RenderOptions) (unit : TranslationUnit) : Option String :=
  if overflows options unit then none else some (render options unit)

end CppSyntax
