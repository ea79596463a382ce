import CppSyntax.Proofs.Gathering.Order

/-!
Nesting of declarations and statements. Every level that a path into a tree meets has been read one
level deeper, so that a path meets no more of them than levels are allowed.
-/

namespace CppSyntax

open CppSyntax.Parser

/-- The parts of a node that are levels of nesting. Directives are none, and neither are the variables
of conditions and ranges nor statements before a condition. -/
def Tree.levels {c : Category} : Tree c → List Node
  | .unit declarations _ => declared declarations
  | .namespaceBlock _ _ members _ | .linkageBlock _ members => declared members
  | .classSpecifier _ _ _ _ _ _ members _ => declared members
  | .template _ _ inner | .linkageSingle _ inner | .declarationStatement inner =>
    declared (.cons inner .nil)
  | .block statements _ => statements.nodes
  | .ifStatement _ _ _ thenBranch elseBranch => thenBranch.node :: elseBranch.nodes
  | .forStatement _ _ _ body | .rangeFor _ _ _ body | .whileStatement _ body | .doStatement body _
  | .switchStatement _ _ body => [body.node]
  | _ => []
where
  declared (declarations : Trees .declaration) : List Node :=
    (declarations.toList.filter fun inner => !inner.isDirective).map (·.node)

/-- A way down from the first node to the second one that meets so many levels behind the first. -/
inductive Node.Descends : Node → Node → Nat → Prop where
  | self (node : Node) : Descends node node 0
  | level {node child inner : Node} {count : Nat} (counted : child ∈ node.2.levels)
      (below : Descends child inner count) : Descends node inner (count + 1)
  | part {node child inner : Node} {count : Nat} (among : child ∈ node.2.parts)
      (uncounted : child ∉ node.2.levels) (below : Descends child inner count) :
      Descends node inner count

/-- The levels on the way with the most of them, where ways of so many steps lead through a level
wherever there is one. -/
def Node.levelsWithin : Nat → Node → Nat
  | 0, _ => 0
  | steps + 1, node =>
    if node.2.levels.isEmpty then (node.2.parts.map (levelsWithin steps)).foldr max 0
    else (node.2.levels.map fun child => levelsWithin steps child + 1).foldr max 0

theorem exists_max (values : List α) (size : α → Nat) :
    (values.map size).foldr max 0 = 0 ∨ ∃ value ∈ values, (values.map size).foldr max 0 = size value := by
  induction values with
  | nil => exact .inl rfl
  | cons value values ih =>
    rw [List.map_cons, List.foldr_cons]
    rcases Nat.le_total (size value) ((values.map size).foldr max 0) with le | le
    · rw [Nat.max_eq_right le]
      exact ih.imp_right fun ⟨other, later, same⟩ => ⟨other, List.mem_cons_of_mem value later, same⟩
    · exact .inr ⟨value, List.mem_cons_self .., Nat.max_eq_left le⟩

/-- Some way down meets as many levels. -/
theorem Node.exists_descends (steps : Nat) (node : Node) :
    ∃ inner, node.Descends inner (node.levelsWithin steps) := by
  induction steps generalizing node with
  | zero => exact ⟨node, .self node⟩
  | succ steps ih =>
    rw [levelsWithin]
    split
    · rename_i none
      rcases exists_max node.2.parts (levelsWithin steps) with zero | ⟨child, among, same⟩
      · exact ⟨node, by rw [zero]; exact .self node⟩
      · obtain ⟨inner, below⟩ := ih child
        refine ⟨inner, same ▸ .part among ?_ below⟩
        rw [List.isEmpty_iff.mp none]
        exact List.not_mem_nil
    · rcases exists_max node.2.levels fun child => levelsWithin steps child + 1 with
        zero | ⟨child, counted, same⟩
      · exact ⟨node, by rw [zero]; exact .self node⟩
      · obtain ⟨inner, below⟩ := ih child
        exact ⟨inner, same ▸ .level counted below⟩

/-- So many levels deep, no way down into the piece meets more levels than allowed. -/
def Piece.Fits (depth : Nat) : Piece → Prop
  | .note _ => True
  | .part node => ∀ inner count, node.Descends inner count → depth + count ≤ nestingLimit
  | .level node => ∀ inner count, node.Descends inner count → depth + 1 + count ≤ nestingLimit

namespace Piece

variable {depth : Nat}

theorem Fits.shallower {piece : Piece} (fits : piece.Fits (depth + 1)) : piece.Fits depth := by
  cases piece with
  | note => trivial
  | part node | level node =>
    intro inner count descends
    have bound := fits inner count descends
    omega

/-- A level is also a node that might be none. -/
theorem Fits.node {piece : Piece} {node : Node} (fits : piece.Fits depth) (isNode : piece.node? = some node) :
    (Piece.part node).Fits depth := by
  cases piece with
  | note => cases isNode
  | part other =>
    cases isNode
    exact fits
  | level other =>
    cases isNode
    intro inner count descends
    have bound := fits inner count descends
    omega

end Piece

namespace Tree

theorem level_statement (inner : Statement) : Piece.level inner.node = inner.node.piece := rfl

theorem level_mem_statements {nodes : List Node} {items : List Statement}
    (same : nodes = items.map (·.node)) {child : Node} (among : child ∈ nodes) :
    .level child ∈ nodes.map Node.piece := by
  subst same
  obtain ⟨inner, _, rfl⟩ := List.mem_map.mp among
  exact List.mem_map_of_mem among

theorem level_mem_declared {items : Trees .declaration} {child : Node}
    (counted : child ∈ levels.declared items) :
    (∃ inner ∈ items.toList, child = inner.node ∧ inner.isDirective = false) ∧
      .level child ∈ piecesIn items := by
  obtain ⟨inner, listed, rfl⟩ := List.mem_map.mp counted
  obtain ⟨listed, plain⟩ := List.mem_filter.mp listed
  exact ⟨⟨inner, listed, rfl, by simpa using plain⟩,
    List.mem_map.mpr ⟨inner.node, List.mem_map_of_mem listed, rfl⟩⟩

/-- What counts as a level has been read as one. -/
theorem level_mem_pieces {tree : Tree c} {child : Node} (counted : child ∈ tree.levels) :
    .level child ∈ tree.pieces := by
  cases tree with
  | unit | namespaceBlock => exact List.mem_append_left _ (level_mem_declared counted).2
  | classSpecifier =>
    exact List.mem_append_left _ (List.mem_append_right _ (level_mem_declared counted).2)
  | linkageBlock | linkageSingle => exact (level_mem_declared counted).2
  | template params _ inner =>
    have member := (level_mem_declared counted).2
    show Piece.level child ∈ (params.nodes ++ [inner.node]).map Node.piece
    rw [List.map_append]
    exact List.mem_append_right _ member
  | declarationStatement =>
    obtain ⟨⟨other, listed, rfl, plain⟩, member⟩ := level_mem_declared counted
    obtain rfl := List.mem_singleton.mp listed
    simp only [pieces, plain]
    exact member
  | block => exact List.mem_append_left _ (level_mem_statements rfl counted)
  | ifStatement _ _ _ thenBranch elseBranch =>
    rcases List.mem_cons.mp counted with rfl | among
    · simp [pieces, piecesIn_tree, level_statement]
    · exact List.mem_append_right _ (level_mem_statements rfl among)
  | forStatement | rangeFor | whileStatement | doStatement | switchStatement =>
    obtain rfl := List.mem_singleton.mp counted
    simp [pieces, piecesIn_tree, parts, level_statement]
  | _ => cases counted

end Tree

/-- A node fits if its pieces do. -/
theorem Tree.fits {tree : Tree c} {depth : Nat} (low : depth ≤ nestingLimit)
    (below : ∀ piece ∈ tree.pieces, piece.Fits depth) : (Piece.part tree.node).Fits depth := by
  intro inner count descends
  cases descends with
  | self => exact low
  | level counted descends =>
    have bound := below _ (level_mem_pieces counted) _ _ descends
    omega
  | part among _ descends =>
    have member : _ ∈ nodesOf tree.pieces := tree.nodesOf_pieces ▸ among
    obtain ⟨piece, listed, isNode⟩ := List.mem_filterMap.mp member
    exact (below piece listed).node isNode _ _ descends

/-- Ways into a node depend on its parts only. -/
theorem Piece.Fits.copied {tree : Tree c} {depth : Nat} (fits : (Piece.part tree.node).Fits depth)
    (other : Tree c) (levels : other.levels = tree.levels) (parts : other.parts = tree.parts) :
    (Piece.part other.node).Fits depth := by
  intro inner count descends
  cases descends with
  | self => exact fits tree.node 0 (.self _)
  | level counted below => exact fits _ _ (.level (levels ▸ counted) below)
  | part among uncounted below => exact fits _ _ (.part (parts ▸ among) (levels ▸ uncounted) below)

theorem notes_fit (depth : Nat) (comments : List String) :
    ∀ piece ∈ notes comments, piece.Fits depth := by
  intro piece member
  obtain ⟨comment, _, rfl⟩ := List.mem_map.mp member
  trivial

/-- The statement made of a declaration fits where the declaration is a level of its own. -/
theorem Tree.fits_asStatement {inner : Declaration} {depth : Nat} (low : depth ≤ nestingLimit)
    (fit : ∀ piece ∈ (declarationStatement inner).pieces, piece.Fits depth) :
    (Piece.part inner.asStatement.node).Fits depth := by
  cases inner with
  | declaration place form =>
    let bare := Tree.declaration (.bare place.location) form
    have formFits : (Piece.part (declarationStatement bare).node).Fits depth := by
      refine fits low ?_
      have same : bare.isDirective = (declaration place form).isDirective := by cases form <;> rfl
      dsimp only [pieces] at fit ⊢
      rw [same]
      by_cases directive : (declaration place form).isDirective = true
      · rw [if_pos directive] at fit ⊢
        have whole : (Piece.part (declaration place form).node).Fits depth :=
          List.forall_mem_singleton.mp fit
        exact List.forall_mem_singleton.mpr (whole.copied bare rfl rfl)
      · rw [if_neg directive] at fit ⊢
        have whole : (Piece.level (declaration place form).node).Fits depth :=
          List.forall_mem_singleton.mp fit
        have deeper : (Piece.part (declaration place form).node).Fits (depth + 1) := whole
        exact List.forall_mem_singleton.mpr (deeper.copied bare rfl rfl)
    exact fits low (List.forall_mem_singleton.mpr formFits)

theorem Remade.fits {before after : List Piece} {depth : Nat} (remade : Remade before after)
    (low : depth ≤ nestingLimit) (fit : ∀ piece ∈ before, piece.Fits depth) :
    ∀ piece ∈ after, piece.Fits depth := by
  induction remade with
  | refl => exact fit
  | trans _ _ first second => exact second (first fit)
  | within front back _ ih =>
    simp only [List.mem_append, or_imp, forall_and] at fit ⊢
    exact ⟨⟨fit.1.1, ih fit.1.2⟩, fit.2⟩
  | dropped => exact nofun
  | built tree => exact List.forall_mem_singleton.mpr (tree.fits low fit)
  | split tree _ below =>
    have whole := List.forall_mem_singleton.mp fit
    intro piece member
    obtain ⟨node, rfl, _⟩ := below piece member
    have among : node ∈ tree.parts := by
      rw [← tree.nodesOf_pieces]
      exact List.mem_filterMap.mpr ⟨_, member, rfl⟩
    have uncounted : node ∉ tree.levels := by
      intro counted
      obtain ⟨other, same, _⟩ := below _ (Tree.level_mem_pieces counted)
      cases same
    exact fun inner count descends => whole inner count (.part among uncounted descends)
  | swapped => exact fun piece member => fit piece (by simpa [or_comm] using member)
  | discounted node =>
    have fits := List.forall_mem_singleton.mp fit
    exact List.forall_mem_singleton.mpr (fits.node rfl)
  | led comment tree =>
    have fits := fit tree.node.piece (by simp)
    refine List.forall_mem_singleton.mpr ?_
    cases tree with
    | declaration place form =>
      have deeper : (Piece.part (Tree.declaration place form).node).Fits (depth + 1) := fits
      exact deeper.copied (.declaration _ form) rfl rfl
    | statement place form =>
      have deeper : (Piece.part (Tree.statement place form).node).Fits (depth + 1) := fits
      exact deeper.copied (.statement _ form) rfl rfl
    | _ => exact fits

/-- At any depth that is allowed, all pieces that are gathered fit. -/
theorem Gathered.fits {stretch : Stretch} {depth : Nat} {start reached : State} {pieces : List Piece}
    (gathered : Gathered stretch depth start reached pieces) (low : depth ≤ nestingLimit) :
    ∀ piece ∈ pieces, piece.Fits depth := by
  induction gathered with
  | nothing => exact nofun
  | declared _ _ ih | token _ _ ih | freed _ _ ih => exact ih low
  | trailing _ ih | leading _ _ ih => exact List.forall_mem_append.mpr ⟨ih low, notes_fit _ _⟩
  | remade _ remade ih => exact remade.fits low (ih low)
  | followed _ _ _ ihBefore ihAfter => exact List.forall_mem_append.mpr ⟨ihBefore low, ihAfter low⟩
  | placed _ _ _ _ ih => exact List.forall_mem_singleton.mpr (Tree.fits low (ih low))
  | restated _ ih => exact List.forall_mem_singleton.mpr (Tree.fits_asStatement low (ih low))
  | deeper lower _ ih => exact fun piece member => (ih lower piece member).shallower
  | level lower _ ih =>
    have fits := List.forall_mem_singleton.mp (ih lower)
    exact List.forall_mem_singleton.mpr fits

end CppSyntax
