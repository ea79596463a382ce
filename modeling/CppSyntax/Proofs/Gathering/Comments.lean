import CppSyntax.Proofs.Gathering.Reading

/-!
Comments of trees and of tokens. Whatever is gathered between two places holds no comment more often
than the tokens between them, since every comment around a token is taken at most once.
-/

namespace CppSyntax

/-- The comments that a node records itself: around it, or before what closes it. -/
def Tree.ownComments {c : Category} : Tree c → List String
  | .declaration place _ | .statement place _ | .enumerator _ _ place => place.comments
  | .classSpecifier _ _ _ _ _ _ _ closing | .namespaceBlock _ _ _ closing | .block _ closing
  | .unit _ closing => closing
  | _ => []

/-- The comments recorded at a node and at all nodes below it. -/
def Node.comments (node : Node) : List String :=
  node.2.ownComments ++ node.2.parts.attach.flatMap fun child => comments child.1
termination_by sizeOf node.2
decreasing_by exact Tree.sizeOf_lt child.2

theorem Node.comments_eq (node : Node) :
    node.comments = node.2.ownComments ++ node.2.parts.flatMap Node.comments := by
  rw [comments, List.flatMap_subtype (g := comments) (by simp)]
  simp

/-- All comments of a tree. -/
def Tree.comments (tree : Tree c) : List String := tree.node.comments

/-- The comments around a token. -/
def Token.comments (token : Token) : List String :=
  token.leadingComments ++ token.trailingComment.toList

theorem comments_declarationStatement (inner : Declaration) :
    (Tree.declarationStatement inner).node.comments = inner.node.comments := by
  rw [Node.comments_eq]
  simp [Tree.node, Tree.ownComments]

/-- The statement made of a declaration has the comments of the declaration. -/
theorem comments_asStatement (inner : Declaration) :
    inner.asStatement.node.comments = inner.node.comments := by
  cases inner with
  | declaration place form =>
    simp [Node.comments_eq, Tree.asStatement, Tree.node, Tree.ownComments, Placement.bare,
      Placement.comments]

def Piece.comments : Piece → List String
  | .note comment => [comment]
  | .part node | .level node => node.comments

/-- How often a comment stands in the pieces. -/
def tally (comment : String) (pieces : List Piece) : Nat :=
  (pieces.flatMap Piece.comments).count comment

section

variable {comment : String}

@[simp] theorem tally_nil : tally comment [] = 0 := rfl

theorem tally_cons (piece : Piece) (pieces : List Piece) :
    tally comment (piece :: pieces) = piece.comments.count comment + tally comment pieces := by
  simp [tally]

@[simp] theorem tally_append (pieces more : List Piece) :
    tally comment (pieces ++ more) = tally comment pieces + tally comment more := by
  simp [tally]

@[simp] theorem tally_notes (comments : List String) :
    tally comment (notes comments) = comments.count comment := by
  simp [tally, notes, List.flatMap_map, Piece.comments]

@[simp] theorem Node.comments_piece (node : Node) : node.piece.comments = node.comments := by
  obtain ⟨c, tree⟩ := node
  cases c <;> rfl

@[simp] theorem tally_piece (node : Node) : tally comment [node.piece] = node.comments.count comment := by
  simp [tally]

@[simp] theorem tally_part (node : Node) : tally comment [.part node] = node.comments.count comment := by
  simp [tally, Piece.comments]

@[simp] theorem tally_level (node : Node) :
    tally comment [.level node] = node.comments.count comment := by
  simp [tally, Piece.comments]

/-- Whether its declarations and statements count as levels, a value holds the same comments. -/
theorem tally_headersIn [HasNodes α] (value : α) :
    tally comment (headersIn value) = tally comment (piecesIn value) := by
  simp only [tally, headersIn, piecesIn, List.flatMap_map, Node.comments_piece]
  rfl

theorem tally_nodes (nodes : List Node) :
    tally comment (nodes.map Node.piece) = (nodes.flatMap Node.comments).count comment := by
  simp [tally, List.flatMap_map]

/-- A node holds the comments of its placement and those of the pieces that it is made of. -/
theorem Tree.count_comments (tree : Tree c) (comment : String) : tree.node.comments.count comment =
    (tree.place?.toList.flatMap Placement.comments).count comment + tally comment tree.pieces := by
  have below : tree.node.comments.count comment =
      tree.ownComments.count comment + tally comment (tree.parts.map Node.piece) := by
    rw [Node.comments_eq, List.count_append, tally_nodes]
    rfl
  rw [below]
  cases tree with
  | classSpecifier =>
    simp [ownComments, parts, place?, pieces, piecesIn_trees, piecesIn_part]
    omega
  | namespaceBlock | block | unit =>
    simp [ownComments, parts, place?, pieces, piecesIn_trees, Nat.add_comm]
  | testDeclaration | ifStatement | forStatement | rangeFor | switchStatement =>
    simp [ownComments, parts, place?, pieces, piecesIn_tree, piecesIn_part, tally_headersIn, tally_cons]
  | declarationStatement inner =>
    simp only [pieces]
    split <;> simp [ownComments, parts, place?, piecesIn_tree, tally_headersIn, tally_cons]
  | declaration | statement | enumerator => simp [ownComments, place?]
  | _ => exact (Nat.zero_add _).trans (Nat.zero_add _).symm

/-- Making one thing of another adds no comment. -/
theorem Remade.tally_le {before after : List Piece} (remade : Remade before after)
    (comment : String) : tally comment after ≤ tally comment before := by
  induction remade with
  | refl => exact Nat.le_refl _
  | trans _ _ first second => exact Nat.le_trans second first
  | within front back _ ih =>
    simp only [tally_append]
    omega
  | dropped => exact Nat.zero_le _
  | built tree unplaced | split tree unplaced =>
    simp [Tree.count_comments, unplaced]
  | swapped => simp [tally_cons, Nat.add_comm]
  | discounted => simp
  | led found tree =>
    rw [tally_piece, tally_cons, tally_piece]
    cases tree with
    | declaration place form | statement place form =>
      simp only [Tree.count_comments, Tree.mapPlace, Option.toList_some, List.flatMap_singleton,
        Placement.comments, Placement.precede, List.cons_append, List.count_cons, Piece.comments]
      simp
      omega
    | _ => exact Nat.le_add_left ..

end

namespace State

/-- How often a comment stands around the tokens from the current one on. -/
def tally (comment : String) (state : State) : Nat :=
  (state.tokens.flatMap Token.comments).count comment

variable {state : State}

/-- The comments from the current token on are those around it and those behind it. -/
theorem Ended.tally_eq_next (ended : state.Ended) (inside : state.atEnd = false) (comment : String) :
    state.tally comment = state.current.leadingComments.count comment +
      state.next.trailing.toList.count comment + state.next.tally comment := by
  obtain ⟨tokens, previous⟩ := ended.next_inside inside
  rw [tally, tally, tokens, trailing, previous, State.tokens, List.flatMap_cons, List.count_append,
    Token.comments, List.count_append, Option.bind_some]

end State

namespace Stretch

/-- How often a comment is left free at the ends of the stretch. -/
def spare (comment : String) (start reached : State) : Stretch → Nat
  | .fresh | .inside =>
    start.current.leadingComments.count comment + reached.trailing.toList.count comment
  | .behind => start.current.leadingComments.count comment
  | .whole => 0

/-- A comment that has been gathered so often between two places, or is left free there, stands around
the tokens between them, unless nothing has been read. -/
def Bounds (comment : String) (start reached : State) (count : Nat) (stretch : Stretch) : Prop :=
  stretch = .fresh ∧ count = 0 ∧ reached.tokens = start.tokens ∧ reached.previous = start.previous ∨
    count + stretch.spare comment start reached + reached.tally comment ≤ start.tally comment

namespace Bounds

variable {comment : String} {start state reached : State} {stretch first second : Stretch}
  {count more : Nat}

theorem atMost (bounds : stretch.Bounds comment start reached count) (fewer : more ≤ count) :
    stretch.Bounds comment start reached more := by
  rcases bounds with ⟨fresh, none, same⟩ | bound
  · exact .inl ⟨fresh, by omega, same⟩
  · exact .inr (by omega)

theorem next (bounds : stretch.Bounds comment start state count)
    (around : state.tally comment = state.current.leadingComments.count comment +
      state.next.trailing.toList.count comment + state.next.tally comment) :
    stretch.read.Bounds comment start state.next count := by
  refine .inr ?_
  rcases bounds with ⟨rfl, none, tokens, _⟩ | bound
  · have same : state.tally comment = start.tally comment := by rw [State.tally, tokens, State.tally]
    have current : state.current = start.current := (List.cons.inj tokens).1
    rw [current] at around
    dsimp only [spare]
    omega
  · cases stretch <;> dsimp only [spare] at bound ⊢ <;> omega

theorem freed (bounds : first.Bounds comment start reached count) (frees : first.Frees second) :
    second.Bounds comment start reached count := by
  rcases frees.listed with rfl | rfl | rfl
  · exact bounds
  · rcases bounds with ⟨fresh, _⟩ | bound
    · cases fresh
    · refine .inr (Nat.le_trans ?_ bound)
      cases second <;> dsimp only [spare] <;> omega
  · rcases bounds with ⟨_, none, tokens, _⟩ | bound
    · refine .inr ?_
      rw [none, State.tally, tokens]
      exact Nat.le_of_eq (Nat.zero_add _)
    · refine .inr (Nat.le_trans ?_ bound)
      dsimp only [spare]
      omega

theorem followed (before : first.Bounds comment start state count)
    (after : second.Bounds comment state reached more) (joins : first.Joins second) :
    (first.join second).Bounds comment start reached (count + more) := by
  rcases after with ⟨rfl, none, tokens, previous⟩ | after
  -- Nothing has been read behind the first stretch.
  · have same : reached.tally comment = state.tally comment := by rw [State.tally, tokens, State.tally]
    have trailing : reached.trailing = state.trailing := by rw [State.trailing, previous, State.trailing]
    rw [none, Nat.add_zero]
    rcases before with ⟨fresh, none, tokens', previous'⟩ | before
    · exact .inl ⟨fresh, none, tokens.trans tokens', previous.trans previous'⟩
    · refine .inr ?_
      cases first <;> dsimp only [spare] at before ⊢ <;> rwa [same, trailing] at *
  · refine .inr ?_
    rcases before with ⟨rfl, none, tokens, _⟩ | before
    -- Nothing has been read in the first stretch, and the second one does not begin with an item.
    · have same : state.tally comment = start.tally comment := by rw [State.tally, tokens, State.tally]
      have current : state.current = start.current := (List.cons.inj tokens).1
      have apart := joins.apart rfl
      cases second <;> simp_all [spare]
    · cases first <;> cases second <;> dsimp only [spare] at before after ⊢ <;> omega

/-- An item takes the comments that are free at the ends of what it is made of. -/
theorem placed {place : Placement} (bounds : stretch.Bounds comment start reached count)
    (begun : stretch = .inside ∨ stretch = .behind) (spans : place.Spans stretch start reached) :
    Bounds comment start reached (place.comments.count comment + count) .whole := by
  have leading := spans.leading.count_le comment
  have trailing := spans.trailing.count_le comment
  refine .inr ?_
  rw [Placement.comments, List.count_append]
  rcases begun with rfl | rfl
  · rcases bounds with ⟨fresh, _⟩ | bound
    · cases fresh
    · rw [if_pos rfl] at trailing
      dsimp only [spare] at bound ⊢
      omega
  · rcases bounds with ⟨fresh, _⟩ | bound
    · cases fresh
    · rw [if_neg nofun, List.count_nil] at trailing
      dsimp only [spare] at bound ⊢
      omega

end Bounds

end Stretch

/-- Nothing is gathered more often than it stands around the tokens. -/
theorem Gathered.bounds {stretch : Stretch} {depth : Nat} {start reached : State} {pieces : List Piece}
    (gathered : Gathered stretch depth start reached pieces) (comment : String) :
    stretch.Bounds comment start reached (tally comment pieces) := by
  induction gathered with
  | nothing => exact .inl ⟨rfl, rfl, rfl, rfl⟩
  | declared _ _ ih | deeper _ _ ih => exact ih
  | token before inside ih => exact ih.next (before.ended.tally_eq_next inside comment)
  | trailing before ih =>
    rcases ih with ⟨fresh, _⟩ | bound
    · cases fresh
    · refine .inr ?_
      dsimp only [Stretch.spare] at bound ⊢
      rw [tally_append, tally_notes]
      omega
  | @leading _ _ state _ before inside ih =>
    have around := before.ended.tally_eq_next inside comment
    rcases ih with ⟨fresh, _⟩ | bound
    · cases fresh
    · refine .inr ?_
      dsimp only [Stretch.spare] at bound ⊢
      rw [tally_append, tally_notes]
      omega
  | remade _ remade ih => exact ih.atMost (remade.tally_le comment)
  | freed _ frees ih => exact ih.freed frees
  | followed _ _ joins ihBefore ihAfter =>
    rw [tally_append]
    exact ihBefore.followed ihAfter joins
  | @placed _ _ _ _ _ tree place _ begun recorded spans ih =>
    rw [tally_part, tree.count_comments, recorded]
    simpa using ih.placed begun spans
  | @restated _ _ _ inner declared ih =>
    have whole := (Tree.declarationStatement inner).count_comments comment
    rw [comments_declarationStatement] at whole
    rw [tally_part, comments_asStatement, whole]
    simpa using ih
  | level _ _ ih => simpa using ih

end CppSyntax
