import CppSyntax.Proofs.Gathering.Reading
import CppSyntax.Proofs.Account.Contract
import CppSyntax.Proofs.Lexing.Order

/-!
Order of the places that a tree records. Pieces are gathered in the order of the tokens, so that what
stands behind a sibling is recorded behind everything in it.
-/

namespace CppSyntax

namespace Location

variable {a b c : Location}

theorem before_of_before_of_not (first : a.before b = true) (second : c.before b = false) :
    a.before c = true := by
  rw [← Bool.not_eq_true, before_iff] at second
  rw [before_iff] at *
  omega

theorem not_before_trans (first : b.before a = false) (second : c.before b = false) :
    c.before a = false := by
  rw [← Bool.not_eq_true, before_iff] at *
  omega

end Location

/-- Where a node stands, if it records that. -/
def Tree.location? {c : Category} (tree : Tree c) : Option Location :=
  tree.place?.map (·.location)

/-- The nodes of a list in a node: declarations in a unit or between braces, statements of a block,
enumerators. -/
def Tree.siblings {c : Category} : Tree c → List Node
  | .unit declarations _ => declarations.nodes
  | .namespaceBlock _ _ members _ | .linkageBlock _ members => members.nodes
  | .classSpecifier _ _ _ _ _ _ members _ => members.nodes
  | .block statements _ => statements.nodes
  | .enumSpecifier _ _ _ enumerators => enumerators.nodes
  | _ => []

namespace Node

/-- The location is that of the node or of one below it. -/
def Records (node : Node) (location : Location) : Prop :=
  ∃ inner : Node, inner.Within node ∧ inner.2.location? = some location

/-- Everything in the first node stands before the second one. -/
def Before (first second : Node) : Prop :=
  ∀ location, first.Records location → ∀ own, second.2.location? = some own →
    location.before own = true

/-- The siblings in a node stand one behind the other, and nothing in the node stands before it. -/
structure InOrder (node : Node) : Prop where
  siblings : node.2.siblings.Pairwise Before
  inside (own : Location) : node.2.location? = some own →
    ∀ location, node.Records location → location.before own = false

theorem records_iff {node : Node} {location : Location} : node.Records location ↔
    node.2.location? = some location ∨ ∃ child ∈ node.2.parts, child.Records location := by
  constructor
  · rintro ⟨inner, within, own⟩
    cases within with
    | self => exact .inl own
    | under among inside => exact .inr ⟨_, among, inner, inside, own⟩
  · rintro (own | ⟨child, among, inner, inside, own⟩)
    · exact ⟨node, .self, own⟩
    · exact ⟨inner, .under among inside, own⟩

end Node

theorem Tree.siblings_sublist (tree : Tree c) : tree.siblings.Sublist tree.parts := by
  cases tree <;> first
    | exact List.nil_sublist _
    | exact .refl _
    | exact List.sublist_append_right ..

/-- The nodes among pieces. -/
def nodesOf (pieces : List Piece) : List Node := pieces.filterMap Piece.node?

@[simp] theorem nodesOf_nil : nodesOf [] = [] := rfl

theorem nodesOf_cons (piece : Piece) (pieces : List Piece) :
    nodesOf (piece :: pieces) = piece.node?.toList ++ nodesOf pieces := by
  cases found : piece.node? <;> simp [nodesOf, found]

@[simp] theorem nodesOf_append (pieces more : List Piece) :
    nodesOf (pieces ++ more) = nodesOf pieces ++ nodesOf more :=
  List.filterMap_append

@[simp] theorem nodesOf_notes (comments : List String) : nodesOf (notes comments) = [] := by
  simp [nodesOf, notes, Piece.node?]

@[simp] theorem Node.node?_piece (node : Node) : node.piece.node? = some node := by
  obtain ⟨c, tree⟩ := node
  cases c <;> rfl

@[simp] theorem nodesOf_map (nodes : List Node) : nodesOf (nodes.map Node.piece) = nodes := by
  have found : Piece.node? ∘ Node.piece = some := funext Node.node?_piece
  rw [nodesOf, List.filterMap_map, found, List.filterMap_some]

@[simp] theorem nodesOf_piecesIn [HasNodes α] (value : α) :
    nodesOf (piecesIn value) = HasNodes.roots value :=
  nodesOf_map _

@[simp] theorem nodesOf_headersIn [HasNodes α] (value : α) :
    nodesOf (headersIn value) = HasNodes.roots value := by
  simp [nodesOf, headersIn, List.filterMap_map, Function.comp_def, Piece.node?]

/-- A node is made of its parts and of comments. -/
theorem Tree.nodesOf_pieces (tree : Tree c) : nodesOf tree.pieces = tree.parts := by
  cases tree with
  | classSpecifier | namespaceBlock | block | unit | testDeclaration | forStatement =>
    simp only [pieces, nodesOf_append, nodesOf_piecesIn, nodesOf_headersIn, nodesOf_notes,
      List.append_nil]
    rfl
  | ifStatement | rangeFor | switchStatement => simp [pieces, parts, HasNodes.roots]
  | declarationStatement inner =>
    simp only [pieces]
    split
    · exact nodesOf_headersIn inner
    · exact nodesOf_piecesIn inner
  | _ => exact nodesOf_map _

/-- All that the first nodes record, the second ones record too. -/
structure RecordedIn (others nodes : List Node) : Prop where
  records : ∀ node ∈ others, ∀ location, node.Records location →
    ∃ other ∈ nodes, other.Records location
  locations : ∀ node ∈ others, ∀ own, node.2.location? = some own →
    ∃ other ∈ nodes, other.2.location? = some own

/-- The nodes stand in a row between two places. -/
structure InRow (low high : Location) (nodes : List Node) : Prop where
  recorded : ∀ node ∈ nodes, ∀ location, node.Records location →
    location.before low = false ∧ location.before high = true
  inOrder : ∀ node ∈ nodes, node.Everywhere Node.InOrder
  pairwise : nodes.Pairwise Node.Before

namespace InRow

variable {low middle high : Location} {nodes more others : List Node}

theorem nil : InRow low high [] := ⟨by simp, by simp, .nil⟩

theorem append_iff : InRow low high (nodes ++ more) ↔ InRow low high nodes ∧ InRow low high more ∧
    ∀ first ∈ nodes, ∀ second ∈ more, first.Before second := by
  constructor
  · intro row
    obtain ⟨first, second, apart⟩ := List.pairwise_append.mp row.pairwise
    exact ⟨⟨fun node member => row.recorded node (List.mem_append_left _ member),
        fun node member => row.inOrder node (List.mem_append_left _ member), first⟩,
      ⟨fun node member => row.recorded node (List.mem_append_right _ member),
        fun node member => row.inOrder node (List.mem_append_right _ member), second⟩, apart⟩
  · rintro ⟨first, second, apart⟩
    exact ⟨fun node member => (List.mem_append.mp member).elim (first.recorded node) (second.recorded node),
      fun node member => (List.mem_append.mp member).elim (first.inOrder node) (second.inOrder node),
      List.pairwise_append.mpr ⟨first.pairwise, second.pairwise, apart⟩⟩

theorem mono {lower higher : Location} (row : InRow low high nodes) (below : low.before lower = false)
    (above : higher.before high = false) : InRow lower higher nodes :=
  ⟨fun node member location inside =>
    have found := row.recorded node member location inside
    ⟨Location.not_before_trans below found.1, Location.before_of_before_of_not found.2 above⟩,
    row.inOrder, row.pairwise⟩

/-- Rows between neighbouring places are one row. -/
theorem followed (first : InRow low middle nodes) (second : InRow middle high more)
    (ordered : middle.before low = false) (risen : high.before middle = false) :
    InRow low high (nodes ++ more) := by
  refine append_iff.mpr ⟨first.mono (Location.not_before_self low) risen,
    second.mono ordered (Location.not_before_self high), ?_⟩
  intro node member other among location inside own isOwn
  have before := (first.recorded node member location inside).2
  have behind := (second.recorded other among own (Node.records_iff.mpr (.inl isOwn))).1
  exact Location.before_of_before_of_not before behind

/-- Nodes can take the place of others in a row if they record nothing else. -/
theorem within {front back : List Node} (row : InRow low high (front ++ nodes ++ back))
    (inner : InRow low high others) (kept : RecordedIn others nodes) :
    InRow low high (front ++ others ++ back) := by
  obtain ⟨first, last, behind⟩ := append_iff.mp row
  obtain ⟨atFront, _, ahead⟩ := append_iff.mp first
  refine append_iff.mpr ⟨append_iff.mpr ⟨atFront, inner, ?_⟩, last, ?_⟩
  · intro node member other among location inside own isOwn
    obtain ⟨earlier, listed, same⟩ := kept.locations other among own isOwn
    exact ahead node member earlier listed location inside own same
  · intro node member other among location inside own isOwn
    rcases List.mem_append.mp member with front | middle
    · exact behind node (List.mem_append_left _ front) other among location inside own isOwn
    · obtain ⟨earlier, listed, same⟩ := kept.records node middle location inside
      exact behind earlier (List.mem_append_right _ listed) other among location same own isOwn

/-- A node of which the parts stand in a row. -/
theorem node (tree : Tree c) (row : InRow low high tree.parts)
    (own : ∀ location, tree.location? = some location →
      location.before low = false ∧ location.before high = true ∧ low.before location = false) :
    InRow low high [tree.node] := by
  have recorded : ∀ location, tree.node.Records location →
      location.before low = false ∧ location.before high = true := by
    intro location inside
    rcases Node.records_iff.mp inside with isOwn | ⟨child, among, below⟩
    · exact ⟨(own location isOwn).1, (own location isOwn).2.1⟩
    · exact row.recorded child among location below
  refine ⟨?_, ?_, List.pairwise_singleton ..⟩
  · rintro node member location inside
    obtain rfl := List.mem_singleton.mp member
    exact recorded location inside
  · rintro node member
    obtain rfl := List.mem_singleton.mp member
    refine Node.everywhere_iff.mpr ⟨⟨row.pairwise.sublist tree.siblings_sublist, ?_⟩, row.inOrder⟩
    intro place isOwn location inside
    exact Location.not_before_trans (own place isOwn).2.2 (recorded location inside).1

/-- The statement made of a declaration stands where the declaration does. -/
theorem restated {inner : Declaration} (row : InRow low high [inner.node]) :
    InRow low high [inner.asStatement.node] := by
  cases inner with
  | declaration place form =>
    have member := List.mem_singleton_self (Tree.declaration place form).node
    obtain ⟨atRoot, below⟩ := Node.everywhere_iff.mp (row.inOrder _ member)
    have own := row.recorded _ member place.location (Node.records_iff.mpr (.inl rfl))
    have formRow : InRow place.location high [form.node] := by
      refine ⟨fun node among location inside => ?_, below, List.pairwise_singleton ..⟩
      have recorded : (Tree.declaration place form).node.Records location :=
        Node.records_iff.mpr (.inr ⟨node, among, inside⟩)
      exact ⟨atRoot.inside place.location rfl location recorded,
        (row.recorded _ member location recorded).2⟩
    have atPlace : ∀ location, some place.location = some location →
        location.before place.location = false ∧ location.before high = true ∧
          place.location.before location = false := by
      rintro location ⟨⟩
      exact ⟨Location.not_before_self _, own.2, Location.not_before_self _⟩
    let bare := Tree.declaration (.bare place.location) form
    have bareRow := node bare formRow atPlace
    have formOf := node (.declarationStatement bare) bareRow nofun
    have whole := node (.statement place (.declarationStatement bare)) formOf atPlace
    exact whole.mono own.1 (Location.not_before_self high)

end InRow

namespace RecordedIn

variable {nodes others more : List Node}

theorem of_subset (subset : others ⊆ nodes) : RecordedIn others nodes :=
  ⟨fun node member _ inside => ⟨node, subset member, inside⟩,
    fun node member _ isOwn => ⟨node, subset member, isOwn⟩⟩

theorem trans (first : RecordedIn more others) (second : RecordedIn others nodes) :
    RecordedIn more nodes := by
  constructor
  · intro node member location inside
    obtain ⟨other, among, there⟩ := first.records node member location inside
    exact second.records other among location there
  · intro node member own isOwn
    obtain ⟨other, among, there⟩ := first.locations node member own isOwn
    exact second.locations other among own there

theorem within (front back : List Node) (inner : RecordedIn others nodes) :
    RecordedIn (front ++ others ++ back) (front ++ nodes ++ back) := by
  constructor
  · intro node member location inside
    rcases List.mem_append.mp member with first | last
    · rcases List.mem_append.mp first with ahead | middle
      · exact ⟨node, by simp [ahead], inside⟩
      · obtain ⟨other, among, there⟩ := inner.records node middle location inside
        exact ⟨other, by simp [among], there⟩
    · exact ⟨node, by simp [last], inside⟩
  · intro node member own isOwn
    rcases List.mem_append.mp member with first | last
    · rcases List.mem_append.mp first with ahead | middle
      · exact ⟨node, by simp [ahead], isOwn⟩
      · obtain ⟨other, among, there⟩ := inner.locations node middle own isOwn
        exact ⟨other, by simp [among], there⟩
    · exact ⟨node, by simp [last], isOwn⟩

end RecordedIn

namespace Tree

theorem location?_precede (comment : String) (tree : Tree c) :
    (tree.mapPlace (·.precede comment)).location? = tree.location? := by
  cases tree <;> rfl

theorem records_precede (comment : String) (tree : Tree c) (location : Location) :
    (tree.mapPlace (·.precede comment)).node.Records location ↔ tree.node.Records location := by
  rw [Node.records_iff, Node.records_iff]
  cases tree <;> rfl

theorem inOrder_precede (comment : String) {tree : Tree c} (inOrder : tree.node.Everywhere Node.InOrder) :
    (tree.mapPlace (·.precede comment)).node.Everywhere Node.InOrder := by
  obtain ⟨atRoot, below⟩ := Node.everywhere_iff.mp inOrder
  have inside := fun own isOwn location within => atRoot.inside own
    (tree.location?_precede comment ▸ isOwn) location ((tree.records_precede comment location).mp within)
  refine Node.everywhere_iff.mpr ⟨⟨?_, inside⟩, ?_⟩
  · cases tree <;> exact atRoot.siblings
  · cases tree <;> exact below

end Tree

namespace Remade

variable {before after : List Piece}

theorem locationless {tree : Tree c}
    (below : ∀ piece ∈ tree.pieces, ∃ node : Node, piece = .part node ∧ node.2.place? = none) :
    ∀ node ∈ tree.parts, node.2.location? = none := by
  intro node member
  rw [← tree.nodesOf_pieces] at member
  obtain ⟨piece, among, isNode⟩ := List.mem_filterMap.mp member
  obtain ⟨other, rfl, unplaced⟩ := below piece among
  cases isNode
  rw [Tree.location?, unplaced, Option.map_none]

theorem recordedIn (remade : Remade before after) : RecordedIn (nodesOf after) (nodesOf before) := by
  induction remade with
  | refl => exact .of_subset (List.Subset.refl _)
  | trans _ _ first second => exact second.trans first
  | within front back _ ih =>
    rw [nodesOf_append, nodesOf_append, nodesOf_append, nodesOf_append]
    exact ih.within _ _
  | dropped => exact .of_subset (List.nil_subset _)
  | built tree unplaced =>
    rw [tree.nodesOf_pieces]
    constructor
    · rintro node member location inside
      obtain rfl := List.mem_singleton.mp member
      rcases Node.records_iff.mp inside with isOwn | below
      · simp [Tree.location?, Tree.node, unplaced] at isOwn
      · exact below
    · rintro node member own isOwn
      obtain rfl := List.mem_singleton.mp member
      simp [Tree.location?, Tree.node, unplaced] at isOwn
  | split tree unplaced below =>
    rw [tree.nodesOf_pieces]
    constructor
    · intro node member location inside
      exact ⟨tree.node, List.mem_singleton_self _, Node.records_iff.mpr (.inr ⟨node, member, inside⟩)⟩
    · intro node member own isOwn
      rw [locationless below node member] at isOwn
      cases isOwn
  | swapped tree _ other =>
    refine .of_subset ?_
    rw [nodesOf_cons, nodesOf_cons, nodesOf_nil, nodesOf_cons, nodesOf_cons, nodesOf_nil]
    grind
  | discounted node => exact .of_subset (List.Subset.refl _)
  | led comment tree =>
    rw [nodesOf_cons, nodesOf_cons, nodesOf_nil, nodesOf_cons, nodesOf_nil, Node.node?_piece,
      Node.node?_piece]
    constructor
    · rintro node member location inside
      obtain rfl := List.mem_singleton.mp member
      exact ⟨tree.node, List.mem_singleton_self _, (tree.records_precede comment location).mp inside⟩
    · rintro node member own isOwn
      obtain rfl := List.mem_singleton.mp member
      exact ⟨tree.node, List.mem_singleton_self _, tree.location?_precede comment ▸ isOwn⟩

theorem inRow {low high : Location} (remade : Remade before after)
    (row : InRow low high (nodesOf before)) : InRow low high (nodesOf after) := by
  induction remade with
  | refl => exact row
  | trans _ _ first second => exact second (first row)
  | within front back inner ih =>
    rw [nodesOf_append, nodesOf_append] at row ⊢
    refine row.within (ih ?_) inner.recordedIn
    exact (InRow.append_iff.mp (InRow.append_iff.mp row).1).2.1
  | dropped => exact .nil
  | built tree unplaced =>
    rw [tree.nodesOf_pieces] at row
    refine .node tree row fun location own => ?_
    simp [Tree.location?, unplaced] at own
  | split tree unplaced below =>
    rw [tree.nodesOf_pieces]
    have member := List.mem_singleton_self tree.node
    refine ⟨fun node among location inside => row.recorded tree.node member location
      (Node.records_iff.mpr (.inr ⟨node, among, inside⟩)),
      (Node.everywhere_iff.mp (row.inOrder tree.node member)).2, ?_⟩
    refine List.pairwise_of_forall_mem_list fun first _ second among location _ own isOwn => ?_
    rw [locationless below second among] at isOwn
    cases isOwn
  | swapped tree unplaced other =>
    rw [nodesOf_cons, nodesOf_cons, nodesOf_nil, List.append_nil] at row ⊢
    obtain ⟨first, second, _⟩ := InRow.append_iff.mp row
    refine InRow.append_iff.mpr ⟨second, first, ?_⟩
    rintro node _ later member location _ own isOwn
    obtain rfl := List.mem_singleton.mp member
    simp [Tree.location?, Tree.node, unplaced] at isOwn
  | discounted node => exact row
  | led comment tree =>
    rw [nodesOf_cons, nodesOf_cons, nodesOf_nil, Node.node?_piece] at row
    rw [nodesOf_cons, nodesOf_nil, Node.node?_piece]
    refine ⟨?_, ?_, List.pairwise_singleton ..⟩
    · rintro node member location inside
      obtain rfl := List.mem_singleton.mp member
      exact row.recorded tree.node (List.mem_singleton_self _) location
        ((tree.records_precede comment location).mp inside)
    · rintro node member
      obtain rfl := List.mem_singleton.mp member
      exact tree.inOrder_precede comment (row.inOrder tree.node (List.mem_singleton_self _))

end Remade

namespace State

variable {start state : State}

theorem Reaches.not_before (reaches : start.Reaches state) (sorted : Token.InOrder start.tokens) :
    state.current.location.before start.current.location = false := by
  have among := reaches.tokens_suffix.subset (List.mem_cons_self ..)
  rcases List.mem_cons.mp among with same | behind
  · rw [same]
    exact Location.not_before_self _
  · exact Location.before_asymm (List.rel_of_pairwise_cons sorted behind)

theorem Reaches.before (reaches : start.Reaches state) (sorted : Token.InOrder start.tokens)
    (further : state.remaining < start.remaining) :
    start.current.location.before state.current.location = true := by
  rcases List.suffix_cons_iff.mp reaches.tokens_suffix with same | behind
  · have counted := congrArg List.length same
    simp only [tokens, List.length_cons] at counted
    simp only [remaining] at further
    omega
  · exact List.rel_of_pairwise_cons sorted (behind.subset (List.mem_cons_self ..))

theorem Reaches.sorted (reaches : start.Reaches state) (sorted : Token.InOrder start.tokens) :
    Token.InOrder state.tokens :=
  sorted.sublist reaches.tokens_suffix.sublist

end State

namespace Gathered

variable {stretch : Stretch} {depth : Nat} {start reached : State} {pieces : List Piece}

/-- A stretch with a token of its own leads on to another place. -/
theorem remaining_lt (gathered : Gathered stretch depth start reached pieces)
    (begun : stretch = .inside ∨ stretch = .behind) : reached.remaining < start.remaining := by
  induction gathered with
  | nothing => simp at begun
  | declared _ _ ih | remade _ _ ih | deeper _ _ ih => exact ih begun
  | token before inside | leading before inside =>
    exact Nat.lt_of_lt_of_le (State.remaining_next_lt before.ended inside) before.reaches.remaining_le
  | trailing _ ih => exact ih (.inl rfl)
  | freed _ frees ih =>
    rcases frees.listed with rfl | rfl | rfl
    · exact ih begun
    · exact ih (.inl rfl)
    · simp at begun
  | @followed first second _ _ _ _ _ _ before after joins ihBefore ihAfter =>
    have apart := joins.apart
    cases second with
    | fresh => exact Nat.lt_of_le_of_lt after.reaches.remaining_le (ihBefore begun)
    | inside | behind => exact Nat.lt_of_lt_of_le (ihAfter (by simp)) before.reaches.remaining_le
    | whole =>
      refine Nat.lt_of_le_of_lt after.reaches.remaining_le (ihBefore ?_)
      cases first <;> simp_all
  | placed | restated | level => simp at begun

/-- What is gathered stands in a row. -/
theorem inRow (gathered : Gathered stretch depth start reached pieces)
    (sorted : Token.InOrder start.tokens) :
    InRow start.current.location reached.current.location (nodesOf pieces) := by
  induction gathered with
  | nothing => exact .nil
  | declared _ _ ih | deeper _ _ ih | freed _ _ ih | level _ _ ih => exact ih sorted
  | token before _ ih =>
    have row := ih sorted
    exact row.mono (Location.not_before_self _)
      ((State.Reaches.next .refl).not_before (before.reaches.sorted sorted))
  | trailing _ ih =>
    rw [nodesOf_append, nodesOf_notes, List.append_nil]
    exact ih sorted
  | leading before _ ih =>
    rw [nodesOf_append, nodesOf_notes, List.append_nil]
    have row := ih sorted
    exact row.mono (Location.not_before_self _)
      ((State.Reaches.next .refl).not_before (before.reaches.sorted sorted))
  | remade _ remade ih => exact remade.inRow (ih sorted)
  | followed before after _ ihBefore ihAfter =>
    rw [nodesOf_append]
    exact (ihBefore sorted).followed (ihAfter (before.reaches.sorted sorted))
      (before.reaches.not_before sorted) (after.reaches.not_before (before.reaches.sorted sorted))
  | @placed _ _ start reached _ tree place inner begun recorded spans ih =>
    have row := ih sorted
    rw [tree.nodesOf_pieces] at row
    refine .node tree row fun location own => ?_
    rw [Tree.location?, recorded, Option.map_some, Option.some_inj] at own
    obtain rfl := own
    rw [spans.location]
    exact ⟨Location.not_before_self _, inner.reaches.before sorted (inner.remaining_lt begun),
      Location.not_before_self _⟩
  | restated _ ih =>
    have row := ih sorted
    rw [Tree.nodesOf_pieces] at row
    exact row.restated

end Gathered

end CppSyntax
