import CppSyntax.Proofs.WellFormed.Value

/-!
Pieces that trees are put together from. A comment that has been picked up is a piece of its own until
it is placed, and a node that counts as a level of nesting is told from one that does not. Putting
pieces together keeps their order and uses each of them at most once.
-/

namespace CppSyntax

/-- What a reader has at hand: a comment without a place, or a node. -/
inductive Piece where
  | note (comment : String)
  | part (node : Node)
  | level (node : Node)

/-- Declarations and statements are levels of nesting. -/
@[reducible] def Node.piece : Node → Piece
  | ⟨.declaration, inner⟩ => .level ⟨.declaration, inner⟩
  | ⟨.statement, inner⟩ => .level ⟨.statement, inner⟩
  | node => .part node

def Piece.node? : Piece → Option Node
  | .note _ => none
  | .part node | .level node => some node

/-- The comments as pieces. -/
def notes (comments : List String) : List Piece := comments.map .note

/-- The pieces that a value holds. -/
def piecesIn [HasNodes α] (value : α) : List Piece := (HasNodes.roots value).map Node.piece

/-- The pieces that a value holds where its declarations and statements count as no levels. -/
def headersIn [HasNodes α] (value : α) : List Piece := (HasNodes.roots value).map .part

namespace Tree

/-- The placement that a node records. -/
@[reducible] def place? {c : Category} : Tree c → Option Placement
  | .declaration place _ | .statement place _ | .enumerator _ _ place => some place
  | _ => none

def isDirective : Declaration → Bool
  | .declaration _ (.directive _) => true
  | _ => false

/-- What a node is put together from, beside the comments of its own placement. Variables of conditions
and ranges, statements before a condition and directives are no levels there. -/
@[reducible] def pieces {c : Category} : Tree c → List Piece
  | .classSpecifier _ _ _ title _ bases members closing =>
    piecesIn title ++ piecesIn bases ++ piecesIn members ++ notes closing
  | .namespaceBlock _ _ members closing => piecesIn members ++ notes closing
  | .block statements closing => piecesIn statements ++ notes closing
  | .unit declarations closing => piecesIn declarations ++ notes closing
  | .testDeclaration inner => headersIn inner
  | .ifStatement _ init test thenBranch elseBranch =>
    headersIn init ++ piecesIn test ++ piecesIn thenBranch ++ piecesIn elseBranch
  | .forStatement init test step body =>
    headersIn init ++ piecesIn test ++ piecesIn step ++ piecesIn body
  | .rangeFor init element range body =>
    headersIn init ++ headersIn element ++ piecesIn range ++ piecesIn body
  | .switchStatement init test body => headersIn init ++ piecesIn test ++ piecesIn body
  | .declarationStatement inner => if inner.isDirective then headersIn inner else piecesIn inner
  | tree => tree.parts.map Node.piece

end Tree

/-- The second pieces are the first ones with some put together or taken apart, and some left out. A
node that may stand for itself is only put in the place of its pieces by reading. -/
inductive Remade : List Piece → List Piece → Prop where
  | refl (pieces : List Piece) : Remade pieces pieces
  | trans {before middle after : List Piece} (first : Remade before middle)
      (second : Remade middle after) : Remade before after
  | within (front back : List Piece) {before after : List Piece} (inner : Remade before after) :
      Remade (front ++ before ++ back) (front ++ after ++ back)
  | dropped (pieces : List Piece) : Remade pieces []
  | built (tree : Tree c) (unplaced : tree.place? = none) : Remade tree.pieces [.part tree.node]
  | split (tree : Tree c) (unplaced : tree.place? = none)
      (below : ∀ piece ∈ tree.pieces, ∃ node : Node, piece = .part node ∧ node.2.place? = none) :
      Remade [.part tree.node] tree.pieces
  /-- Nodes without a place may be kept in any order. -/
  | swapped (tree : Tree c) (unplaced : tree.place? = none) (other : Piece) :
      Remade [.part tree.node, other] [other, .part tree.node]
  | discounted (node : Node) : Remade [.level node] [.part node]
  /-- A comment that is handed to the node behind it. -/
  | led (comment : String) (tree : Tree c) :
      Remade [.note comment, tree.node.piece] [(tree.mapPlace (·.precede comment)).node.piece]

namespace Remade

variable {before after : List Piece}

theorem behind (front : List Piece) (remade : Remade before after) :
    Remade (front ++ before) (front ++ after) := by
  simpa using within front [] remade

theorem inFront (back : List Piece) (remade : Remade before after) :
    Remade (before ++ back) (after ++ back) := by
  simpa using within [] back remade

theorem leftOut (kept more : List Piece) : Remade (kept ++ more) kept := by
  simpa using behind kept (dropped more)

end Remade

section

variable [HasNodes α] [HasNodes β] {a : α} {b : β} {as bs : List α}

@[simp] theorem piecesIn_treeless [Treeless α] (value : α) : piecesIn value = [] := by
  rw [piecesIn, Treeless.none, List.map_nil]

theorem piecesIn_tree (tree : Tree c) : piecesIn tree = [tree.node.piece] := rfl

theorem piecesIn_trees (items : Trees c) : piecesIn items = items.nodes.map Node.piece := rfl

theorem piecesIn_part (part : Part c) : piecesIn part = part.nodes.map Node.piece := rfl

@[simp] theorem piecesIn_nil : piecesIn ([] : List α) = [] := rfl

@[simp] theorem piecesIn_cons : piecesIn (a :: as) = piecesIn a ++ piecesIn as :=
  List.map_append

@[simp] theorem piecesIn_append : piecesIn (as ++ bs) = piecesIn as ++ piecesIn bs := by
  induction as with
  | nil => rfl
  | cons a as ih => rw [List.cons_append, piecesIn_cons, ih, piecesIn_cons, List.append_assoc]

@[simp] theorem piecesIn_none : piecesIn (none : Option α) = [] := rfl

@[simp] theorem piecesIn_some : piecesIn (some a) = piecesIn a :=
  (@piecesIn_cons _ _ a []).trans (List.append_nil _)

@[simp] theorem piecesIn_pair : piecesIn (a, b) = piecesIn a ++ piecesIn b := List.map_append

@[simp] theorem piecesIn_optionToList (found : Option α) : piecesIn found.toList = piecesIn found := by
  cases found with
  | none => rfl
  | some a => rfl

end

@[simp] theorem piecesIn_noTrees : piecesIn (.nil : Trees c) = [] := rfl

@[simp] theorem piecesIn_moreTrees (head : Tree c) (tail : Trees c) :
    piecesIn (Trees.cons head tail) = piecesIn head ++ piecesIn tail := rfl

@[simp] theorem piecesIn_ofOption (found : Option (Tree c)) :
    piecesIn (Part.ofOption found) = piecesIn found := by
  cases found with
  | none => rfl
  | some tree => rfl

@[simp] theorem piecesIn_toList (items : Trees c) : piecesIn items.toList = piecesIn items := by
  match items with
  | .nil => rfl
  | .cons head tail =>
    rw [Trees.toList, piecesIn_cons, piecesIn_toList tail]
    rfl

@[simp] theorem piecesIn_ofList (items : List (Tree c)) : piecesIn (Trees.ofList items) = piecesIn items := by
  rw [← piecesIn_toList, Trees.toList_ofList]

@[simp] theorem headersIn_ofOption (found : Option (Tree c)) :
    headersIn (Part.ofOption found) = headersIn found := by
  cases found with
  | none => rfl
  | some tree => rfl

@[simp] theorem headersIn_none [HasNodes α] : headersIn (none : Option α) = [] := rfl

@[simp] theorem headersIn_some (tree : Tree c) : headersIn (some tree) = headersIn tree := rfl

/-- A node without a place is no level. -/
theorem piecesIn_unplaced {tree : Tree c} (unplaced : tree.place? = none) :
    piecesIn tree = [.part tree.node] := by
  cases tree <;> first | rfl | cases unplaced

/-- The nodes of these categories record a placement. -/
def Category.isPlaced : Category → Bool
  | .declaration | .statement | .enumerator => true
  | _ => false

theorem Tree.place?_eq_none (tree : Tree c) (unplaced : c.isPlaced = false) : tree.place? = none := by
  cases tree <;> first | rfl | cases unplaced

theorem Trees.isPlaced_nodes {items : Trees c} (unplaced : c.isPlaced = false) :
    ∀ node ∈ items.nodes, node.1.isPlaced = false := by
  intro node member
  obtain ⟨tree, _, rfl⟩ := List.mem_map.mp member
  exact unplaced

namespace Remade

/-- A node can be taken apart if neither it nor a part of it is placed. -/
theorem opened {tree : Tree c} (unplaced : c.isPlaced = false)
    (parts : tree.pieces = tree.parts.map Node.piece)
    (below : ∀ node ∈ tree.parts, node.1.isPlaced = false) : Remade (piecesIn tree) tree.pieces := by
  rw [piecesIn_unplaced (tree.place?_eq_none unplaced)]
  refine .split tree (tree.place?_eq_none unplaced) fun piece member => ?_
  rw [parts] at member
  obtain ⟨⟨category, child⟩, among, rfl⟩ := List.mem_map.mp member
  have plain := child.place?_eq_none (below _ among)
  exact ⟨⟨category, child⟩, List.cons.inj (piecesIn_unplaced plain) |>.1, plain⟩

/-- A node with a single part gives way to that part. -/
theorem unwrapped {tree : Tree c} {inner : Tree d} (unplaced : c.isPlaced = false)
    (below : d.isPlaced = false) (plain : tree.pieces = tree.parts.map Node.piece)
    (single : tree.parts = [inner.node]) : Remade (piecesIn tree) (piecesIn inner) := by
  have opened := opened unplaced plain (single ▸ List.forall_mem_singleton.mpr below)
  rwa [plain, single] at opened

/-- A node can take the place of another one that is made of the same pieces. -/
theorem replaced {tree other : Tree c} (unplaced : c.isPlaced = false)
    (parts : tree.pieces = tree.parts.map Node.piece)
    (below : ∀ node ∈ tree.parts, node.1.isPlaced = false) (same : other.pieces = tree.pieces) :
    Remade (piecesIn tree) (piecesIn other) := by
  rw [piecesIn_unplaced (other.place?_eq_none unplaced)]
  exact (opened unplaced parts below).trans (same ▸ .built other (other.place?_eq_none unplaced))

end Remade

instance : Holds (a = a) := ⟨rfl⟩

/-- The pieces can be made of the given ones, the last of them first. -/
class Makes (given pieces : List Piece) : Prop where
  remade : Remade given pieces

namespace Makes

variable {given before more pieces : List Piece}

/-- Nothing is left to be made. -/
instance nothing : Makes given [] := ⟨.dropped given⟩

/-- The last piece is given. -/
instance (priority := high) last [rest : Makes given before] : Makes (given ++ more) (before ++ more) :=
  ⟨rest.remade.inFront more⟩

instance alone [rest : Makes [] before] : Makes more (before ++ more) :=
  ⟨rest.remade.inFront more⟩

/-- The last given piece is not used. -/
instance (priority := low) unused [rest : Makes given pieces] : Makes (given ++ more) pieces :=
  ⟨.trans (.leftOut given more) rest.remade⟩

instance apart {first second : List Piece} [made : Makes (given ++ first ++ second) pieces] :
    Makes (given ++ (first ++ second)) pieces :=
  ⟨List.append_assoc .. ▸ made.remade⟩

theorem of_eq {others : List Piece} (made : Makes given others) (same : pieces = others) :
    Makes given pieces :=
  same ▸ made

instance built {tree : Tree c} [unplaced : Holds (tree.place? = none)]
    [made : Makes given (before ++ tree.pieces)] : Makes given (before ++ piecesIn tree) := by
  rw [piecesIn_unplaced unplaced.holds]
  exact ⟨made.remade.trans (.behind before (.built tree unplaced.holds))⟩

instance noNodes [made : Makes given before] : Makes given (before ++ [].map Node.piece) :=
  made.of_eq (List.append_nil _)

instance moreNodes {tree : Tree c} {nodes : List Node}
    [made : Makes given (before ++ piecesIn tree ++ nodes.map Node.piece)] :
    Makes given (before ++ (tree.node :: nodes).map Node.piece) :=
  made.of_eq (by rw [List.map_cons, piecesIn_tree, List.append_cons])

instance joinedNodes {nodes others : List Node}
    [made : Makes given (before ++ nodes.map Node.piece ++ others.map Node.piece)] :
    Makes given (before ++ (nodes ++ others).map Node.piece) :=
  made.of_eq (by rw [List.map_append, List.append_assoc])

instance treesNodes {items : Trees c} [made : Makes given (before ++ piecesIn items)] :
    Makes given (before ++ items.nodes.map Node.piece) :=
  made

instance partNodes {part : Part c} [made : Makes given (before ++ piecesIn part)] :
    Makes given (before ++ part.nodes.map Node.piece) :=
  made

instance joined {middle : List Piece} [made : Makes given (before ++ middle ++ more)] :
    Makes given (before ++ (middle ++ more)) :=
  made.of_eq (List.append_assoc ..).symm

section

variable [HasNodes α] [HasNodes β] {a : α} {b : β} {as bs : List α}

instance noItems [made : Makes given before] : Makes given (before ++ piecesIn ([] : List α)) :=
  made.of_eq (List.append_nil _)

instance moreItems [made : Makes given (before ++ piecesIn a ++ piecesIn as)] :
    Makes given (before ++ piecesIn (a :: as)) :=
  made.of_eq (by rw [piecesIn_cons, List.append_assoc])

instance joinedItems [made : Makes given (before ++ piecesIn as ++ piecesIn bs)] :
    Makes given (before ++ piecesIn (as ++ bs)) :=
  made.of_eq (by rw [piecesIn_append, List.append_assoc])

instance nothingFound [made : Makes given before] : Makes given (before ++ piecesIn (none : Option α)) :=
  made.of_eq (List.append_nil _)

instance found [made : Makes given (before ++ piecesIn a)] : Makes given (before ++ piecesIn (some a)) :=
  made.of_eq (by rw [piecesIn_some])

instance foundItems {found : Option α} [made : Makes given (before ++ piecesIn found)] :
    Makes given (before ++ piecesIn found.toList) :=
  made.of_eq (by rw [piecesIn_optionToList])

instance pair [made : Makes given (before ++ piecesIn a ++ piecesIn b)] :
    Makes given (before ++ piecesIn (a, b)) :=
  made.of_eq (by rw [piecesIn_pair, List.append_assoc])

instance goingOn [made : Makes given (before ++ piecesIn a)] :
    Makes given (before ++ piecesIn (.inl a : α ⊕ β)) :=
  made

instance ending [made : Makes given (before ++ piecesIn b)] :
    Makes given (before ++ piecesIn (.inr b : α ⊕ β)) :=
  made

instance branch {condition : Prop} [Decidable condition] {other : α}
    [yes : Makes given (before ++ piecesIn a)] [no : Makes given (before ++ piecesIn other)] :
    Makes given (before ++ piecesIn (if condition then a else other)) := by
  split <;> assumption

instance (priority := low) treeless [Treeless α] [made : Makes given before] :
    Makes given (before ++ piecesIn a) :=
  made.of_eq (by rw [piecesIn_treeless, List.append_nil])

end

instance listed {items : List (Tree c)} [made : Makes given (before ++ piecesIn items)] :
    Makes given (before ++ piecesIn (Trees.ofList items)) :=
  made.of_eq (by rw [piecesIn_ofList])

instance unlisted {items : Trees c} [made : Makes given (before ++ piecesIn items)] :
    Makes given (before ++ piecesIn items.toList) :=
  made.of_eq (by rw [piecesIn_toList])

instance noTrees [made : Makes given before] : Makes given (before ++ piecesIn (.nil : Trees c)) :=
  made.of_eq (List.append_nil _)

instance moreTrees {head : Tree c} {tail : Trees c}
    [made : Makes given (before ++ piecesIn head ++ piecesIn tail)] :
    Makes given (before ++ piecesIn (Trees.cons head tail)) :=
  made.of_eq (by rw [piecesIn_moreTrees, List.append_assoc])

instance optional {found : Option (Tree c)} [made : Makes given (before ++ piecesIn found)] :
    Makes given (before ++ piecesIn (Part.ofOption found)) :=
  made.of_eq (by rw [piecesIn_ofOption])

instance absent [made : Makes given before] : Makes given (before ++ piecesIn (.absent : Part c)) :=
  made.of_eq (List.append_nil _)

instance present {tree : Tree c} [made : Makes given (before ++ piecesIn tree)] :
    Makes given (before ++ piecesIn (Part.present tree)) :=
  made

instance noHeader [made : Makes given before] :
    Makes given (before ++ headersIn (none : Option (Tree c))) :=
  made.of_eq (List.append_nil _)

instance someHeader {tree : Tree c} [made : Makes given (before ++ headersIn tree)] :
    Makes given (before ++ headersIn (some tree)) :=
  made

instance optionalHeader {found : Option (Tree c)} [made : Makes given (before ++ headersIn found)] :
    Makes given (before ++ headersIn (Part.ofOption found)) :=
  made.of_eq (by rw [headersIn_ofOption])

end Makes

end CppSyntax
